/-!
# Decompositions and combining classes

The Unicode character database says which characters are made up of others and in which order the marks on
a character stand. Both tables list runs: the number of code points of a run, in decimal digits, and what
they share. A dash stands for nothing to tell.

A decomposition is a run by itself. Its sign says of what kind it is: `=` for one that is undone when
characters are composed, `:` for one that is not, `~` for one that only keeps the meaning. The code points
of the parts follow in hexadecimal digits, with points between them. A combining class is written with the
letter `c`.
-/

namespace PromptLoop

namespace NormalForm

/-- The decompositions, in order. -/
def decompositionTable : String :=
  "
  160- 1~20 7- 1~20.308 1- 1~61 4- 1~20.304 2- 1~32 1~33 1~20.301 1~3BC 2- 1~20.327 1~31 1~6F 1-
  1~31.2044.34 1~31.2044.32 1~33.2044.34 1- 1=41.300 1=41.301 1=41.302 1=41.303 1=41.308 1=41.30A
  1- 1=43.327 1=45.300 1=45.301 1=45.302 1=45.308 1=49.300 1=49.301 1=49.302 1=49.308 1- 1=4E.303
  1=4F.300 1=4F.301 1=4F.302 1=4F.303 1=4F.308 2- 1=55.300 1=55.301 1=55.302 1=55.308 1=59.301 2-
  1=61.300 1=61.301 1=61.302 1=61.303 1=61.308 1=61.30A 1- 1=63.327 1=65.300 1=65.301 1=65.302
  1=65.308 1=69.300 1=69.301 1=69.302 1=69.308 1- 1=6E.303 1=6F.300 1=6F.301 1=6F.302 1=6F.303
  1=6F.308 2- 1=75.300 1=75.301 1=75.302 1=75.308 1=79.301 1- 1=79.308 1=41.304 1=61.304 1=41.306
  1=61.306 1=41.328 1=61.328 1=43.301 1=63.301 1=43.302 1=63.302 1=43.307 1=63.307 1=43.30C
  1=63.30C 1=44.30C 1=64.30C 2- 1=45.304 1=65.304 1=45.306 1=65.306 1=45.307 1=65.307 1=45.328
  1=65.328 1=45.30C 1=65.30C 1=47.302 1=67.302 1=47.306 1=67.306 1=47.307 1=67.307 1=47.327
  1=67.327 1=48.302 1=68.302 2- 1=49.303 1=69.303 1=49.304 1=69.304 1=49.306 1=69.306 1=49.328
  1=69.328 1=49.307 1- 1~49.4A 1~69.6A 1=4A.302 1=6A.302 1=4B.327 1=6B.327 1- 1=4C.301 1=6C.301
  1=4C.327 1=6C.327 1=4C.30C 1=6C.30C 1~4C.B7 1~6C.B7 2- 1=4E.301 1=6E.301 1=4E.327 1=6E.327
  1=4E.30C 1=6E.30C 1~2BC.6E 2- 1=4F.304 1=6F.304 1=4F.306 1=6F.306 1=4F.30B 1=6F.30B 2- 1=52.301
  1=72.301 1=52.327 1=72.327 1=52.30C 1=72.30C 1=53.301 1=73.301 1=53.302 1=73.302 1=53.327
  1=73.327 1=53.30C 1=73.30C 1=54.327 1=74.327 1=54.30C 1=74.30C 2- 1=55.303 1=75.303 1=55.304
  1=75.304 1=55.306 1=75.306 1=55.30A 1=75.30A 1=55.30B 1=75.30B 1=55.328 1=75.328 1=57.302
  1=77.302 1=59.302 1=79.302 1=59.308 1=5A.301 1=7A.301 1=5A.307 1=7A.307 1=5A.30C 1=7A.30C 1~73
  32- 1=4F.31B 1=6F.31B 13- 1=55.31B 1=75.31B 19- 1~44.17D 1~44.17E 1~64.17E 1~4C.4A 1~4C.6A
  1~6C.6A 1~4E.4A 1~4E.6A 1~6E.6A 1=41.30C 1=61.30C 1=49.30C 1=69.30C 1=4F.30C 1=6F.30C 1=55.30C
  1=75.30C 1=DC.304 1=FC.304 1=DC.301 1=FC.301 1=DC.30C 1=FC.30C 1=DC.300 1=FC.300 1- 1=C4.304
  1=E4.304 1=226.304 1=227.304 1=C6.304 1=E6.304 2- 1=47.30C 1=67.30C 1=4B.30C 1=6B.30C 1=4F.328
  1=6F.328 1=1EA.304 1=1EB.304 1=1B7.30C 1=292.30C 1=6A.30C 1~44.5A 1~44.7A 1~64.7A 1=47.301
  1=67.301 2- 1=4E.300 1=6E.300 1=C5.301 1=E5.301 1=C6.301 1=E6.301 1=D8.301 1=F8.301 1=41.30F
  1=61.30F 1=41.311 1=61.311 1=45.30F 1=65.30F 1=45.311 1=65.311 1=49.30F 1=69.30F 1=49.311
  1=69.311 1=4F.30F 1=6F.30F 1=4F.311 1=6F.311 1=52.30F 1=72.30F 1=52.311 1=72.311 1=55.30F
  1=75.30F 1=55.311 1=75.311 1=53.326 1=73.326 1=54.326 1=74.326 2- 1=48.30C 1=68.30C 6- 1=41.307
  1=61.307 1=45.327 1=65.327 1=D6.304 1=F6.304 1=D5.304 1=F5.304 1=4F.307 1=6F.307 1=22E.304
  1=22F.304 1=59.304 1=79.304 124- 1~68 1~266 1~6A 1~72 1~279 1~27B 1~281 1~77 1~79 31- 1~20.306
  1~20.307 1~20.30A 1~20.328 1~20.303 1~20.30B 2- 1~263 1~6C 1~73 1~78 1~295 91- 1:300 1:301 1-
  1:313 1:308.301 47- 1:2B9 5- 1~20.345 3- 1:3B 5- 1~20.301 1=A8.301 1=391.301 1:B7 1=395.301
  1=397.301 1=399.301 1- 1=39F.301 1- 1=3A5.301 1=3A9.301 1=3CA.301 25- 1=399.308 1=3A5.308
  1=3B1.301 1=3B5.301 1=3B7.301 1=3B9.301 1=3CB.301 25- 1=3B9.308 1=3C5.308 1=3BF.301 1=3C5.301
  1=3C9.301 1- 1~3B2 1~3B8 1~3A5 1=3D2.301 1=3D2.308 1~3C6 1~3C0 25- 1~3BA 1~3C1 1~3C2 1- 1~398
  1~3B5 3- 1~3A3 6- 1=415.300 1=415.308 1- 1=413.301 3- 1=406.308 4- 1=41A.301 1=418.300 1=423.306
  10- 1=418.306 31- 1=438.306 22- 1=435.300 1=435.308 1- 1=433.301 3- 1=456.308 4- 1=43A.301
  1=438.300 1=443.306 23- 1=474.30F 1=475.30F 73- 1=416.306 1=436.306 13- 1=410.306 1=430.306
  1=410.308 1=430.308 2- 1=415.306 1=435.306 2- 1=4D8.308 1=4D9.308 1=416.308 1=436.308 1=417.308
  1=437.308 2- 1=418.304 1=438.304 1=418.308 1=438.308 1=41E.308 1=43E.308 2- 1=4E8.308 1=4E9.308
  1=42D.308 1=44D.308 1=423.304 1=443.304 1=423.308 1=443.308 1=423.30B 1=443.30B 1=427.308
  1=447.308 2- 1=42B.308 1=44B.308 141- 1~565.582 154- 1=627.653 1=627.654 1=648.654 1=627.655
  1=64A.654 78- 1~627.674 1~648.674 1~6C7.674 1~64A.674 71- 1=6D5.654 1- 1=6C1.654 16- 1=6D2.654
  597- 1=928.93C 7- 1=930.93C 2- 1=933.93C 35- 1:915.93C 1:916.93C 1:917.93C 1:91C.93C 1:921.93C
  1:922.93C 1:92B.93C 1:92F.93C 107- 1=9C7.9BE 1=9C7.9D7 15- 1:9A1.9BC 1:9A2.9BC 1- 1:9AF.9BC 83-
  1:A32.A3C 2- 1:A38.A3C 34- 1:A16.A3C 1:A17.A3C 1:A1C.A3C 2- 1:A2B.A3C 233- 1=B47.B56 2- 1=B47.B3E
  1=B47.B57 15- 1:B21.B3C 1:B22.B3C 54- 1=B92.BD7 53- 1=BC6.BBE 1=BC7.BBE 1=BC6.BD7 123- 1=C46.C56
  119- 1=CBF.CD5 6- 1=CC6.CD5 1=CC6.CD6 1- 1=CC6.CC2 1=CCA.CD5 126- 1=D46.D3E 1=D47.D3E 1=D46.D57
  141- 1=DD9.DCA 1- 1=DD9.DCF 1=DDC.DCA 1=DD9.DDF 84- 1~E4D.E32 127- 1~ECD.EB2 40- 1~EAB.E99
  1~EAB.EA1 46- 1~F0B 54- 1:F42.FB7 9- 1:F4C.FB7 4- 1:F51.FB7 4- 1:F56.FB7 4- 1:F5B.FB7 12-
  1:F40.FB5 9- 1:F71.F72 1- 1:F71.F74 1:FB2.F80 1~FB2.F81 1:FB3.F80 1~FB3.F81 7- 1:F71.F80 17-
  1:F92.FB7 9- 1:F9C.FB7 4- 1:FA1.FB7 4- 1:FA6.FB7 4- 1:FAB.FB7 12- 1:F90.FB5 108- 1=1025.102E 213-
  1~10DC 2569- 1=1B05.1B35 1- 1=1B07.1B35 1- 1=1B09.1B35 1- 1=1B0B.1B35 1- 1=1B0D.1B35 3-
  1=1B11.1B35 40- 1=1B3A.1B35 1- 1=1B3C.1B35 2- 1=1B3E.1B35 1=1B3F.1B35 1- 1=1B42.1B35 488- 1~41
  1~C6 1~42 1- 1~44 1~45 1~18E 1~47 1~48 1~49 1~4A 1~4B 1~4C 1~4D 1~4E 1- 1~4F 1~222 1~50 1~52 1~54
  1~55 1~57 1~61 1~250 1~251 1~1D02 1~62 1~64 1~65 1~259 1~25B 1~25C 1~67 1- 1~6B 1~6D 1~14B 1~6F
  1~254 1~1D16 1~1D17 1~70 1~74 1~75 1~1D1D 1~26F 1~76 1~1D25 1~3B2 1~3B3 1~3B4 1~3C6 1~3C7 1~69
  1~72 1~75 1~76 1~3B2 1~3B3 1~3C1 1~3C6 1~3C7 13- 1~43D 34- 1~252 1~63 1~255 1~F0 1~25C 1~66 1~25F
  1~261 1~265 1~268 1~269 1~26A 1~1D7B 1~29D 1~26D 1~1D85 1~29F 1~271 1~270 1~272 1~273 1~274 1~275
  1~278 1~282 1~283 1~1AB 1~289 1~28A 1~1D1C 1~28B 1~28C 1~7A 1~290 1~291 1~292 1~3B8 64- 1=41.325
  1=61.325 1=42.307 1=62.307 1=42.323 1=62.323 1=42.331 1=62.331 1=C7.301 1=E7.301 1=44.307
  1=64.307 1=44.323 1=64.323 1=44.331 1=64.331 1=44.327 1=64.327 1=44.32D 1=64.32D 1=112.300
  1=113.300 1=112.301 1=113.301 1=45.32D 1=65.32D 1=45.330 1=65.330 1=228.306 1=229.306 1=46.307
  1=66.307 1=47.304 1=67.304 1=48.307 1=68.307 1=48.323 1=68.323 1=48.308 1=68.308 1=48.327
  1=68.327 1=48.32E 1=68.32E 1=49.330 1=69.330 1=CF.301 1=EF.301 1=4B.301 1=6B.301 1=4B.323
  1=6B.323 1=4B.331 1=6B.331 1=4C.323 1=6C.323 1=1E36.304 1=1E37.304 1=4C.331 1=6C.331 1=4C.32D
  1=6C.32D 1=4D.301 1=6D.301 1=4D.307 1=6D.307 1=4D.323 1=6D.323 1=4E.307 1=6E.307 1=4E.323
  1=6E.323 1=4E.331 1=6E.331 1=4E.32D 1=6E.32D 1=D5.301 1=F5.301 1=D5.308 1=F5.308 1=14C.300
  1=14D.300 1=14C.301 1=14D.301 1=50.301 1=70.301 1=50.307 1=70.307 1=52.307 1=72.307 1=52.323
  1=72.323 1=1E5A.304 1=1E5B.304 1=52.331 1=72.331 1=53.307 1=73.307 1=53.323 1=73.323 1=15A.307
  1=15B.307 1=160.307 1=161.307 1=1E62.307 1=1E63.307 1=54.307 1=74.307 1=54.323 1=74.323 1=54.331
  1=74.331 1=54.32D 1=74.32D 1=55.324 1=75.324 1=55.330 1=75.330 1=55.32D 1=75.32D 1=168.301
  1=169.301 1=16A.308 1=16B.308 1=56.303 1=76.303 1=56.323 1=76.323 1=57.300 1=77.300 1=57.301
  1=77.301 1=57.308 1=77.308 1=57.307 1=77.307 1=57.323 1=77.323 1=58.307 1=78.307 1=58.308
  1=78.308 1=59.307 1=79.307 1=5A.302 1=7A.302 1=5A.323 1=7A.323 1=5A.331 1=7A.331 1=68.331
  1=74.308 1=77.30A 1=79.30A 1~61.2BE 1=17F.307 4- 1=41.323 1=61.323 1=41.309 1=61.309 1=C2.301
  1=E2.301 1=C2.300 1=E2.300 1=C2.309 1=E2.309 1=C2.303 1=E2.303 1=1EA0.302 1=1EA1.302 1=102.301
  1=103.301 1=102.300 1=103.300 1=102.309 1=103.309 1=102.303 1=103.303 1=1EA0.306 1=1EA1.306
  1=45.323 1=65.323 1=45.309 1=65.309 1=45.303 1=65.303 1=CA.301 1=EA.301 1=CA.300 1=EA.300
  1=CA.309 1=EA.309 1=CA.303 1=EA.303 1=1EB8.302 1=1EB9.302 1=49.309 1=69.309 1=49.323 1=69.323
  1=4F.323 1=6F.323 1=4F.309 1=6F.309 1=D4.301 1=F4.301 1=D4.300 1=F4.300 1=D4.309 1=F4.309
  1=D4.303 1=F4.303 1=1ECC.302 1=1ECD.302 1=1A0.301 1=1A1.301 1=1A0.300 1=1A1.300 1=1A0.309
  1=1A1.309 1=1A0.303 1=1A1.303 1=1A0.323 1=1A1.323 1=55.323 1=75.323 1=55.309 1=75.309 1=1AF.301
  1=1B0.301 1=1AF.300 1=1B0.300 1=1AF.309 1=1B0.309 1=1AF.303 1=1B0.303 1=1AF.323 1=1B0.323
  1=59.300 1=79.300 1=59.323 1=79.323 1=59.309 1=79.309 1=59.303 1=79.303 6- 1=3B1.313 1=3B1.314
  1=1F00.300 1=1F01.300 1=1F00.301 1=1F01.301 1=1F00.342 1=1F01.342 1=391.313 1=391.314 1=1F08.300
  1=1F09.300 1=1F08.301 1=1F09.301 1=1F08.342 1=1F09.342 1=3B5.313 1=3B5.314 1=1F10.300 1=1F11.300
  1=1F10.301 1=1F11.301 2- 1=395.313 1=395.314 1=1F18.300 1=1F19.300 1=1F18.301 1=1F19.301 2-
  1=3B7.313 1=3B7.314 1=1F20.300 1=1F21.300 1=1F20.301 1=1F21.301 1=1F20.342 1=1F21.342 1=397.313
  1=397.314 1=1F28.300 1=1F29.300 1=1F28.301 1=1F29.301 1=1F28.342 1=1F29.342 1=3B9.313 1=3B9.314
  1=1F30.300 1=1F31.300 1=1F30.301 1=1F31.301 1=1F30.342 1=1F31.342 1=399.313 1=399.314 1=1F38.300
  1=1F39.300 1=1F38.301 1=1F39.301 1=1F38.342 1=1F39.342 1=3BF.313 1=3BF.314 1=1F40.300 1=1F41.300
  1=1F40.301 1=1F41.301 2- 1=39F.313 1=39F.314 1=1F48.300 1=1F49.300 1=1F48.301 1=1F49.301 2-
  1=3C5.313 1=3C5.314 1=1F50.300 1=1F51.300 1=1F50.301 1=1F51.301 1=1F50.342 1=1F51.342 1-
  1=3A5.314 1- 1=1F59.300 1- 1=1F59.301 1- 1=1F59.342 1=3C9.313 1=3C9.314 1=1F60.300 1=1F61.300
  1=1F60.301 1=1F61.301 1=1F60.342 1=1F61.342 1=3A9.313 1=3A9.314 1=1F68.300 1=1F69.300 1=1F68.301
  1=1F69.301 1=1F68.342 1=1F69.342 1=3B1.300 1:3AC 1=3B5.300 1:3AD 1=3B7.300 1:3AE 1=3B9.300 1:3AF
  1=3BF.300 1:3CC 1=3C5.300 1:3CD 1=3C9.300 1:3CE 2- 1=1F00.345 1=1F01.345 1=1F02.345 1=1F03.345
  1=1F04.345 1=1F05.345 1=1F06.345 1=1F07.345 1=1F08.345 1=1F09.345 1=1F0A.345 1=1F0B.345
  1=1F0C.345 1=1F0D.345 1=1F0E.345 1=1F0F.345 1=1F20.345 1=1F21.345 1=1F22.345 1=1F23.345
  1=1F24.345 1=1F25.345 1=1F26.345 1=1F27.345 1=1F28.345 1=1F29.345 1=1F2A.345 1=1F2B.345
  1=1F2C.345 1=1F2D.345 1=1F2E.345 1=1F2F.345 1=1F60.345 1=1F61.345 1=1F62.345 1=1F63.345
  1=1F64.345 1=1F65.345 1=1F66.345 1=1F67.345 1=1F68.345 1=1F69.345 1=1F6A.345 1=1F6B.345
  1=1F6C.345 1=1F6D.345 1=1F6E.345 1=1F6F.345 1=3B1.306 1=3B1.304 1=1F70.345 1=3B1.345 1=3AC.345 1-
  1=3B1.342 1=1FB6.345 1=391.306 1=391.304 1=391.300 1:386 1=391.345 1~20.313 1:3B9 1~20.313
  1~20.342 1=A8.342 1=1F74.345 1=3B7.345 1=3AE.345 1- 1=3B7.342 1=1FC6.345 1=395.300 1:388
  1=397.300 1:389 1=397.345 1=1FBF.300 1=1FBF.301 1=1FBF.342 1=3B9.306 1=3B9.304 1=3CA.300 1:390 2-
  1=3B9.342 1=3CA.342 1=399.306 1=399.304 1=399.300 1:38A 1- 1=1FFE.300 1=1FFE.301 1=1FFE.342
  1=3C5.306 1=3C5.304 1=3CB.300 1:3B0 1=3C1.313 1=3C1.314 1=3C5.342 1=3CB.342 1=3A5.306 1=3A5.304
  1=3A5.300 1:38E 1=3A1.314 1=A8.300 1:385 1:60 2- 1=1F7C.345 1=3C9.345 1=3CE.345 1- 1=3C9.342
  1=1FF6.345 1=39F.300 1:38C 1=3A9.300 1:38F 1=3A9.345 1:B4 1~20.314 1- 1:2002 1:2003 1~20 1~20
  1~20 1~20 1~20 1~20 1~20 1~20 1~20 6- 1~2010 5- 1~20.333 12- 1~2E 1~2E.2E 1~2E.2E.2E 8- 1~20 3-
  1~2032.2032 1~2032.2032.2032 1- 1~2035.2035 1~2035.2035.2035 4- 1~21.21 1- 1~20.305 8- 1~3F.3F
  1~3F.21 1~21.3F 13- 1~2032.2032.2032.2032 7- 1~20 16- 1~30 1~69 2- 1~34 1~35 1~36 1~37 1~38 1~39
  1~2B 1~2212 1~3D 1~28 1~29 1~6E 1~30 1~31 1~32 1~33 1~34 1~35 1~36 1~37 1~38 1~39 1~2B 1~2212
  1~3D 1~28 1~29 1- 1~61 1~65 1~6F 1~78 1~259 1~68 1~6B 1~6C 1~6D 1~6E 1~70 1~73 1~74 11- 1~52.73
  87- 1~61.2F.63 1~61.2F.73 1~43 1~B0.43 1- 1~63.2F.6F 1~63.2F.75 1~190 1- 1~B0.46 1~67 1~48 1~48
  1~48 1~68 1~127 1~49 1~49 1~4C 1~6C 1- 1~4E 1~4E.6F 2- 1~50 1~51 1~52 1~52 1~52 2- 1~53.4D
  1~54.45.4C 1~54.4D 1- 1~5A 1- 1:3A9 1- 1~5A 1- 1:4B 1:C5 1~42 1~43 1- 1~65 1~45 1~46 1- 1~4D 1~6F
  1~5D0 1~5D1 1~5D2 1~5D3 1~69 1- 1~46.41.58 1~3C0 1~3B3 1~393 1~3A0 1~2211 4- 1~44 1~64 1~65 1~69
  1~6A 6- 1~31.2044.37 1~31.2044.39 1~31.2044.31.30 1~31.2044.33 1~32.2044.33 1~31.2044.35
  1~32.2044.35 1~33.2044.35 1~34.2044.35 1~31.2044.36 1~35.2044.36 1~31.2044.38 1~33.2044.38
  1~35.2044.38 1~37.2044.38 1~31.2044 1~49 1~49.49 1~49.49.49 1~49.56 1~56 1~56.49 1~56.49.49
  1~56.49.49.49 1~49.58 1~58 1~58.49 1~58.49.49 1~4C 1~43 1~44 1~4D 1~69 1~69.69 1~69.69.69 1~69.76
  1~76 1~76.69 1~76.69.69 1~76.69.69.69 1~69.78 1~78 1~78.69 1~78.69.69 1~6C 1~63 1~64 1~6D 9-
  1~30.2044.33 16- 1=2190.338 1=2192.338 18- 1=2194.338 30- 1=21D0.338 1=21D4.338 1=21D2.338 52-
  1=2203.338 4- 1=2208.338 2- 1=220B.338 23- 1=2223.338 1- 1=2225.338 5- 1~222B.222B
  1~222B.222B.222B 1- 1~222E.222E 1~222E.222E.222E 16- 1=223C.338 2- 1=2243.338 2- 1=2245.338 1-
  1=2248.338 22- 1=3D.338 1- 1=2261.338 10- 1=224D.338 1=3C.338 1=3E.338 1=2264.338 1=2265.338 2-
  1=2272.338 1=2273.338 2- 1=2276.338 1=2277.338 6- 1=227A.338 1=227B.338 2- 1=2282.338 1=2283.338
  2- 1=2286.338 1=2287.338 34- 1=22A2.338 1=22A8.338 1=22A9.338 1=22AB.338 48- 1=227C.338
  1=227D.338 1=2291.338 1=2292.338 6- 1=22B2.338 1=22B3.338 1=22B4.338 1=22B5.338 59- 1:3008 1:3009
  309- 1~31 1~32 1~33 1~34 1~35 1~36 1~37 1~38 1~39 1~31.30 1~31.31 1~31.32 1~31.33 1~31.34 1~31.35
  1~31.36 1~31.37 1~31.38 1~31.39 1~32.30 1~28.31.29 1~28.32.29 1~28.33.29 1~28.34.29 1~28.35.29
  1~28.36.29 1~28.37.29 1~28.38.29 1~28.39.29 1~28.31.30.29 1~28.31.31.29 1~28.31.32.29
  1~28.31.33.29 1~28.31.34.29 1~28.31.35.29 1~28.31.36.29 1~28.31.37.29 1~28.31.38.29 1~28.31.39.29
  1~28.32.30.29 1~31.2E 1~32.2E 1~33.2E 1~34.2E 1~35.2E 1~36.2E 1~37.2E 1~38.2E 1~39.2E 1~31.30.2E
  1~31.31.2E 1~31.32.2E 1~31.33.2E 1~31.34.2E 1~31.35.2E 1~31.36.2E 1~31.37.2E 1~31.38.2E
  1~31.39.2E 1~32.30.2E 1~28.61.29 1~28.62.29 1~28.63.29 1~28.64.29 1~28.65.29 1~28.66.29
  1~28.67.29 1~28.68.29 1~28.69.29 1~28.6A.29 1~28.6B.29 1~28.6C.29 1~28.6D.29 1~28.6E.29
  1~28.6F.29 1~28.70.29 1~28.71.29 1~28.72.29 1~28.73.29 1~28.74.29 1~28.75.29 1~28.76.29
  1~28.77.29 1~28.78.29 1~28.79.29 1~28.7A.29 1~41 1~42 1~43 1~44 1~45 1~46 1~47 1~48 1~49 1~4A
  1~4B 1~4C 1~4D 1~4E 1~4F 1~50 1~51 1~52 1~53 1~54 1~55 1~56 1~57 1~58 1~59 1~5A 1~61 1~62 1~63
  1~64 1~65 1~66 1~67 1~68 1~69 1~6A 1~6B 1~6C 1~6D 1~6E 1~6F 1~70 1~71 1~72 1~73 1~74 1~75 1~76
  1~77 1~78 1~79 1~7A 1~30 1313- 1~222B.222B.222B.222B 103- 1~3A.3A.3D 1~3D.3D 1~3D.3D.3D 101-
  1:2ADD.338 415- 1~6A 1~56 241- 1~2D61 303- 1~6BCD 83- 1~9F9F 12- 1~4E00 1~4E28 1~4E36 1~4E3F
  1~4E59 1~4E85 1~4E8C 1~4EA0 1~4EBA 1~513F 1~5165 1~516B 1~5182 1~5196 1~51AB 1~51E0 1~51F5 1~5200
  1~529B 1~52F9 1~5315 1~531A 1~5338 1~5341 1~535C 1~5369 1~5382 1~53B6 1~53C8 1~53E3 1~56D7 1~571F
  1~58EB 1~5902 1~590A 1~5915 1~5927 1~5973 1~5B50 1~5B80 1~5BF8 1~5C0F 1~5C22 1~5C38 1~5C6E 1~5C71
  1~5DDB 1~5DE5 1~5DF1 1~5DFE 1~5E72 1~5E7A 1~5E7F 1~5EF4 1~5EFE 1~5F0B 1~5F13 1~5F50 1~5F61 1~5F73
  1~5FC3 1~6208 1~6236 1~624B 1~652F 1~6534 1~6587 1~6597 1~65A4 1~65B9 1~65E0 1~65E5 1~66F0 1~6708
  1~6728 1~6B20 1~6B62 1~6B79 1~6BB3 1~6BCB 1~6BD4 1~6BDB 1~6C0F 1~6C14 1~6C34 1~706B 1~722A 1~7236
  1~723B 1~723F 1~7247 1~7259 1~725B 1~72AC 1~7384 1~7389 1~74DC 1~74E6 1~7518 1~751F 1~7528 1~7530
  1~758B 1~7592 1~7676 1~767D 1~76AE 1~76BF 1~76EE 1~77DB 1~77E2 1~77F3 1~793A 1~79B8 1~79BE 1~7A74
  1~7ACB 1~7AF9 1~7C73 1~7CF8 1~7F36 1~7F51 1~7F8A 1~7FBD 1~8001 1~800C 1~8012 1~8033 1~807F 1~8089
  1~81E3 1~81EA 1~81F3 1~81FC 1~820C 1~821B 1~821F 1~826E 1~8272 1~8278 1~864D 1~866B 1~8840 1~884C
  1~8863 1~897E 1~898B 1~89D2 1~8A00 1~8C37 1~8C46 1~8C55 1~8C78 1~8C9D 1~8D64 1~8D70 1~8DB3 1~8EAB
  1~8ECA 1~8F9B 1~8FB0 1~8FB5 1~9091 1~9149 1~91C6 1~91CC 1~91D1 1~9577 1~9580 1~961C 1~96B6 1~96B9
  1~96E8 1~9751 1~975E 1~9762 1~9769 1~97CB 1~97ED 1~97F3 1~9801 1~98A8 1~98DB 1~98DF 1~9996 1~9999
  1~99AC 1~9AA8 1~9AD8 1~9ADF 1~9B25 1~9B2F 1~9B32 1~9B3C 1~9B5A 1~9CE5 1~9E75 1~9E7F 1~9EA5 1~9EBB
  1~9EC3 1~9ECD 1~9ED1 1~9EF9 1~9EFD 1~9F0E 1~9F13 1~9F20 1~9F3B 1~9F4A 1~9F52 1~9F8D 1~9F9C 1~9FA0
  42- 1~20 53- 1~3012 1- 1~5341 1~5344 1~5345 17- 1=304B.3099 1- 1=304D.3099 1- 1=304F.3099 1-
  1=3051.3099 1- 1=3053.3099 1- 1=3055.3099 1- 1=3057.3099 1- 1=3059.3099 1- 1=305B.3099 1-
  1=305D.3099 1- 1=305F.3099 1- 1=3061.3099 2- 1=3064.3099 1- 1=3066.3099 1- 1=3068.3099 6-
  1=306F.3099 1=306F.309A 1- 1=3072.3099 1=3072.309A 1- 1=3075.3099 1=3075.309A 1- 1=3078.3099
  1=3078.309A 1- 1=307B.3099 1=307B.309A 22- 1=3046.3099 6- 1~20.3099 1~20.309A 1- 1=309D.3099
  1~3088.308A 12- 1=30AB.3099 1- 1=30AD.3099 1- 1=30AF.3099 1- 1=30B1.3099 1- 1=30B3.3099 1-
  1=30B5.3099 1- 1=30B7.3099 1- 1=30B9.3099 1- 1=30BB.3099 1- 1=30BD.3099 1- 1=30BF.3099 1-
  1=30C1.3099 2- 1=30C4.3099 1- 1=30C6.3099 1- 1=30C8.3099 6- 1=30CF.3099 1=30CF.309A 1-
  1=30D2.3099 1=30D2.309A 1- 1=30D5.3099 1=30D5.309A 1- 1=30D8.3099 1=30D8.309A 1- 1=30DB.3099
  1=30DB.309A 22- 1=30A6.3099 2- 1=30EF.3099 1=30F0.3099 1=30F1.3099 1=30F2.3099 3- 1=30FD.3099
  1~30B3.30C8 49- 1~1100 1~1101 1~11AA 1~1102 1~11AC 1~11AD 1~1103 1~1104 1~1105 1~11B0 1~11B1
  1~11B2 1~11B3 1~11B4 1~11B5 1~111A 1~1106 1~1107 1~1108 1~1121 1~1109 1~110A 1~110B 1~110C 1~110D
  1~110E 1~110F 1~1110 1~1111 1~1112 1~1161 1~1162 1~1163 1~1164 1~1165 1~1166 1~1167 1~1168 1~1169
  1~116A 1~116B 1~116C 1~116D 1~116E 1~116F 1~1170 1~1171 1~1172 1~1173 1~1174 1~1175 1~1160 1~1114
  1~1115 1~11C7 1~11C8 1~11CC 1~11CE 1~11D3 1~11D7 1~11D9 1~111C 1~11DD 1~11DF 1~111D 1~111E 1~1120
  1~1122 1~1123 1~1127 1~1129 1~112B 1~112C 1~112D 1~112E 1~112F 1~1132 1~1136 1~1140 1~1147 1~114C
  1~11F1 1~11F2 1~1157 1~1158 1~1159 1~1184 1~1185 1~1188 1~1191 1~1192 1~1194 1~119E 1~11A1 3-
  1~4E00 1~4E8C 1~4E09 1~56DB 1~4E0A 1~4E2D 1~4E0B 1~7532 1~4E59 1~4E19 1~4E01 1~5929 1~5730 1~4EBA
  96- 1~28.1100.29 1~28.1102.29 1~28.1103.29 1~28.1105.29 1~28.1106.29 1~28.1107.29 1~28.1109.29
  1~28.110B.29 1~28.110C.29 1~28.110E.29 1~28.110F.29 1~28.1110.29 1~28.1111.29 1~28.1112.29
  1~28.1100.1161.29 1~28.1102.1161.29 1~28.1103.1161.29 1~28.1105.1161.29 1~28.1106.1161.29
  1~28.1107.1161.29 1~28.1109.1161.29 1~28.110B.1161.29 1~28.110C.1161.29 1~28.110E.1161.29
  1~28.110F.1161.29 1~28.1110.1161.29 1~28.1111.1161.29 1~28.1112.1161.29 1~28.110C.116E.29
  1~28.110B.1169.110C.1165.11AB.29 1~28.110B.1169.1112.116E.29 1- 1~28.4E00.29 1~28.4E8C.29
  1~28.4E09.29 1~28.56DB.29 1~28.4E94.29 1~28.516D.29 1~28.4E03.29 1~28.516B.29 1~28.4E5D.29
  1~28.5341.29 1~28.6708.29 1~28.706B.29 1~28.6C34.29 1~28.6728.29 1~28.91D1.29 1~28.571F.29
  1~28.65E5.29 1~28.682A.29 1~28.6709.29 1~28.793E.29 1~28.540D.29 1~28.7279.29 1~28.8CA1.29
  1~28.795D.29 1~28.52B4.29 1~28.4EE3.29 1~28.547C.29 1~28.5B66.29 1~28.76E3.29 1~28.4F01.29
  1~28.8CC7.29 1~28.5354.29 1~28.796D.29 1~28.4F11.29 1~28.81EA.29 1~28.81F3.29 1~554F 1~5E7C
  1~6587 1~7B8F 8- 1~50.54.45 1~32.31 1~32.32 1~32.33 1~32.34 1~32.35 1~32.36 1~32.37 1~32.38
  1~32.39 1~33.30 1~33.31 1~33.32 1~33.33 1~33.34 1~33.35 1~1100 1~1102 1~1103 1~1105 1~1106 1~1107
  1~1109 1~110B 1~110C 1~110E 1~110F 1~1110 1~1111 1~1112 1~1100.1161 1~1102.1161 1~1103.1161
  1~1105.1161 1~1106.1161 1~1107.1161 1~1109.1161 1~110B.1161 1~110C.1161 1~110E.1161 1~110F.1161
  1~1110.1161 1~1111.1161 1~1112.1161 1~110E.1161.11B7.1100.1169 1~110C.116E.110B.1174 1~110B.116E
  1- 1~4E00 1~4E8C 1~4E09 1~56DB 1~4E94 1~516D 1~4E03 1~516B 1~4E5D 1~5341 1~6708 1~706B 1~6C34
  1~6728 1~91D1 1~571F 1~65E5 1~682A 1~6709 1~793E 1~540D 1~7279 1~8CA1 1~795D 1~52B4 1~79D8 1~7537
  1~5973 1~9069 1~512A 1~5370 1~6CE8 1~9805 1~4F11 1~5199 1~6B63 1~4E0A 1~4E2D 1~4E0B 1~5DE6 1~53F3
  1~533B 1~5B97 1~5B66 1~76E3 1~4F01 1~8CC7 1~5354 1~591C 1~33.36 1~33.37 1~33.38 1~33.39 1~34.30
  1~34.31 1~34.32 1~34.33 1~34.34 1~34.35 1~34.36 1~34.37 1~34.38 1~34.39 1~35.30 1~31.6708
  1~32.6708 1~33.6708 1~34.6708 1~35.6708 1~36.6708 1~37.6708 1~38.6708 1~39.6708 1~31.30.6708
  1~31.31.6708 1~31.32.6708 1~48.67 1~65.72.67 1~65.56 1~4C.54.44 1~30A2 1~30A4 1~30A6 1~30A8
  1~30AA 1~30AB 1~30AD 1~30AF 1~30B1 1~30B3 1~30B5 1~30B7 1~30B9 1~30BB 1~30BD 1~30BF 1~30C1 1~30C4
  1~30C6 1~30C8 1~30CA 1~30CB 1~30CC 1~30CD 1~30CE 1~30CF 1~30D2 1~30D5 1~30D8 1~30DB 1~30DE 1~30DF
  1~30E0 1~30E1 1~30E2 1~30E4 1~30E6 1~30E8 1~30E9 1~30EA 1~30EB 1~30EC 1~30ED 1~30EF 1~30F0 1~30F1
  1~30F2 1~4EE4.548C 1~30A2.30D1.30FC.30C8 1~30A2.30EB.30D5.30A1 1~30A2.30F3.30DA.30A2
  1~30A2.30FC.30EB 1~30A4.30CB.30F3.30B0 1~30A4.30F3.30C1 1~30A6.30A9.30F3
  1~30A8.30B9.30AF.30FC.30C9 1~30A8.30FC.30AB.30FC 1~30AA.30F3.30B9 1~30AA.30FC.30E0
  1~30AB.30A4.30EA 1~30AB.30E9.30C3.30C8 1~30AB.30ED.30EA.30FC 1~30AC.30ED.30F3 1~30AC.30F3.30DE
  1~30AE.30AC 1~30AE.30CB.30FC 1~30AD.30E5.30EA.30FC 1~30AE.30EB.30C0.30FC 1~30AD.30ED
  1~30AD.30ED.30B0.30E9.30E0 1~30AD.30ED.30E1.30FC.30C8.30EB 1~30AD.30ED.30EF.30C3.30C8
  1~30B0.30E9.30E0 1~30B0.30E9.30E0.30C8.30F3 1~30AF.30EB.30BC.30A4.30ED 1~30AF.30ED.30FC.30CD
  1~30B1.30FC.30B9 1~30B3.30EB.30CA 1~30B3.30FC.30DD 1~30B5.30A4.30AF.30EB
  1~30B5.30F3.30C1.30FC.30E0 1~30B7.30EA.30F3.30B0 1~30BB.30F3.30C1 1~30BB.30F3.30C8
  1~30C0.30FC.30B9 1~30C7.30B7 1~30C9.30EB 1~30C8.30F3 1~30CA.30CE 1~30CE.30C3.30C8
  1~30CF.30A4.30C4 1~30D1.30FC.30BB.30F3.30C8 1~30D1.30FC.30C4 1~30D0.30FC.30EC.30EB
  1~30D4.30A2.30B9.30C8.30EB 1~30D4.30AF.30EB 1~30D4.30B3 1~30D3.30EB 1~30D5.30A1.30E9.30C3.30C9
  1~30D5.30A3.30FC.30C8 1~30D6.30C3.30B7.30A7.30EB 1~30D5.30E9.30F3 1~30D8.30AF.30BF.30FC.30EB
  1~30DA.30BD 1~30DA.30CB.30D2 1~30D8.30EB.30C4 1~30DA.30F3.30B9 1~30DA.30FC.30B8 1~30D9.30FC.30BF
  1~30DD.30A4.30F3.30C8 1~30DC.30EB.30C8 1~30DB.30F3 1~30DD.30F3.30C9 1~30DB.30FC.30EB
  1~30DB.30FC.30F3 1~30DE.30A4.30AF.30ED 1~30DE.30A4.30EB 1~30DE.30C3.30CF 1~30DE.30EB.30AF
  1~30DE.30F3.30B7.30E7.30F3 1~30DF.30AF.30ED.30F3 1~30DF.30EA 1~30DF.30EA.30D0.30FC.30EB
  1~30E1.30AC 1~30E1.30AC.30C8.30F3 1~30E1.30FC.30C8.30EB 1~30E4.30FC.30C9 1~30E4.30FC.30EB
  1~30E6.30A2.30F3 1~30EA.30C3.30C8.30EB 1~30EA.30E9 1~30EB.30D4.30FC 1~30EB.30FC.30D6.30EB
  1~30EC.30E0 1~30EC.30F3.30C8.30B2.30F3 1~30EF.30C3.30C8 1~30.70B9 1~31.70B9 1~32.70B9 1~33.70B9
  1~34.70B9 1~35.70B9 1~36.70B9 1~37.70B9 1~38.70B9 1~39.70B9 1~31.30.70B9 1~31.31.70B9
  1~31.32.70B9 1~31.33.70B9 1~31.34.70B9 1~31.35.70B9 1~31.36.70B9 1~31.37.70B9 1~31.38.70B9
  1~31.39.70B9 1~32.30.70B9 1~32.31.70B9 1~32.32.70B9 1~32.33.70B9 1~32.34.70B9 1~68.50.61 1~64.61
  1~41.55 1~62.61.72 1~6F.56 1~70.63 1~64.6D 1~64.6D.B2 1~64.6D.B3 1~49.55 1~5E73.6210 1~662D.548C
  1~5927.6B63 1~660E.6CBB 1~682A.5F0F.4F1A.793E 1~70.41 1~6E.41 1~3BC.41 1~6D.41 1~6B.41 1~4B.42
  1~4D.42 1~47.42 1~63.61.6C 1~6B.63.61.6C 1~70.46 1~6E.46 1~3BC.46 1~3BC.67 1~6D.67 1~6B.67
  1~48.7A 1~6B.48.7A 1~4D.48.7A 1~47.48.7A 1~54.48.7A 1~3BC.2113 1~6D.2113 1~64.2113 1~6B.2113
  1~66.6D 1~6E.6D 1~3BC.6D 1~6D.6D 1~63.6D 1~6B.6D 1~6D.6D.B2 1~63.6D.B2 1~6D.B2 1~6B.6D.B2
  1~6D.6D.B3 1~63.6D.B3 1~6D.B3 1~6B.6D.B3 1~6D.2215.73 1~6D.2215.73.B2 1~50.61 1~6B.50.61
  1~4D.50.61 1~47.50.61 1~72.61.64 1~72.61.64.2215.73 1~72.61.64.2215.73.B2 1~70.73 1~6E.73
  1~3BC.73 1~6D.73 1~70.56 1~6E.56 1~3BC.56 1~6D.56 1~6B.56 1~4D.56 1~70.57 1~6E.57 1~3BC.57
  1~6D.57 1~6B.57 1~4D.57 1~6B.3A9 1~4D.3A9 1~61.2E.6D.2E 1~42.71 1~63.63 1~63.64 1~43.2215.6B.67
  1~43.6F.2E 1~64.42 1~47.79 1~68.61 1~48.50 1~69.6E 1~4B.4B 1~4B.4D 1~6B.74 1~6C.6D 1~6C.6E
  1~6C.6F.67 1~6C.78 1~6D.62 1~6D.69.6C 1~6D.6F.6C 1~50.48 1~70.2E.6D.2E 1~50.50.4D 1~50.52 1~73.72
  1~53.76 1~57.62 1~56.2215.6D 1~41.2215.6D 1~31.65E5 1~32.65E5 1~33.65E5 1~34.65E5 1~35.65E5
  1~36.65E5 1~37.65E5 1~38.65E5 1~39.65E5 1~31.30.65E5 1~31.31.65E5 1~31.32.65E5 1~31.33.65E5
  1~31.34.65E5 1~31.35.65E5 1~31.36.65E5 1~31.37.65E5 1~31.38.65E5 1~31.39.65E5 1~32.30.65E5
  1~32.31.65E5 1~32.32.65E5 1~32.33.65E5 1~32.34.65E5 1~32.35.65E5 1~32.36.65E5 1~32.37.65E5
  1~32.38.65E5 1~32.39.65E5 1~33.30.65E5 1~33.31.65E5 1~67.61.6C 29340- 1~44A 1~44C 210- 1~A76F
  135- 1~126 1~153 866- 1~A727 1~AB37 1~26B 1~AB52 19872- 1:8C48 1:66F4 1:8ECA 1:8CC8 1:6ED1 1:4E32
  1:53E5 1:9F9C 1:9F9C 1:5951 1:91D1 1:5587 1:5948 1:61F6 1:7669 1:7F85 1:863F 1:87BA 1:88F8 1:908F
  1:6A02 1:6D1B 1:70D9 1:73DE 1:843D 1:916A 1:99F1 1:4E82 1:5375 1:6B04 1:721B 1:862D 1:9E1E 1:5D50
  1:6FEB 1:85CD 1:8964 1:62C9 1:81D8 1:881F 1:5ECA 1:6717 1:6D6A 1:72FC 1:90CE 1:4F86 1:51B7 1:52DE
  1:64C4 1:6AD3 1:7210 1:76E7 1:8001 1:8606 1:865C 1:8DEF 1:9732 1:9B6F 1:9DFA 1:788C 1:797F 1:7DA0
  1:83C9 1:9304 1:9E7F 1:8AD6 1:58DF 1:5F04 1:7C60 1:807E 1:7262 1:78CA 1:8CC2 1:96F7 1:58D8 1:5C62
  1:6A13 1:6DDA 1:6F0F 1:7D2F 1:7E37 1:964B 1:52D2 1:808B 1:51DC 1:51CC 1:7A1C 1:7DBE 1:83F1 1:9675
  1:8B80 1:62CF 1:6A02 1:8AFE 1:4E39 1:5BE7 1:6012 1:7387 1:7570 1:5317 1:78FB 1:4FBF 1:5FA9 1:4E0D
  1:6CCC 1:6578 1:7D22 1:53C3 1:585E 1:7701 1:8449 1:8AAA 1:6BBA 1:8FB0 1:6C88 1:62FE 1:82E5 1:63A0
  1:7565 1:4EAE 1:5169 1:51C9 1:6881 1:7CE7 1:826F 1:8AD2 1:91CF 1:52F5 1:5442 1:5973 1:5EEC 1:65C5
  1:6FFE 1:792A 1:95AD 1:9A6A 1:9E97 1:9ECE 1:529B 1:66C6 1:6B77 1:8F62 1:5E74 1:6190 1:6200 1:649A
  1:6F23 1:7149 1:7489 1:79CA 1:7DF4 1:806F 1:8F26 1:84EE 1:9023 1:934A 1:5217 1:52A3 1:54BD 1:70C8
  1:88C2 1:8AAA 1:5EC9 1:5FF5 1:637B 1:6BAE 1:7C3E 1:7375 1:4EE4 1:56F9 1:5BE7 1:5DBA 1:601C 1:73B2
  1:7469 1:7F9A 1:8046 1:9234 1:96F6 1:9748 1:9818 1:4F8B 1:79AE 1:91B4 1:96B8 1:60E1 1:4E86 1:50DA
  1:5BEE 1:5C3F 1:6599 1:6A02 1:71CE 1:7642 1:84FC 1:907C 1:9F8D 1:6688 1:962E 1:5289 1:677B 1:67F3
  1:6D41 1:6E9C 1:7409 1:7559 1:786B 1:7D10 1:985E 1:516D 1:622E 1:9678 1:502B 1:5D19 1:6DEA 1:8F2A
  1:5F8B 1:6144 1:6817 1:7387 1:9686 1:5229 1:540F 1:5C65 1:6613 1:674E 1:68A8 1:6CE5 1:7406 1:75E2
  1:7F79 1:88CF 1:88E1 1:91CC 1:96E2 1:533F 1:6EBA 1:541D 1:71D0 1:7498 1:85FA 1:96A3 1:9C57 1:9E9F
  1:6797 1:6DCB 1:81E8 1:7ACB 1:7B20 1:7C92 1:72C0 1:7099 1:8B58 1:4EC0 1:8336 1:523A 1:5207 1:5EA6
  1:62D3 1:7CD6 1:5B85 1:6D1E 1:66B4 1:8F3B 1:884C 1:964D 1:898B 1:5ED3 1:5140 1:55C0 2- 1:585A 1-
  1:6674 2- 1:51DE 1:732A 1:76CA 1:793C 1:795E 1:7965 1:798F 1:9756 1:7CBE 1:7FBD 1- 1:8612 1-
  1:8AF8 2- 1:9038 1:90FD 3- 1:98EF 1:98FC 1:9928 1:9DB4 1:90DE 1:96B7 1:4FAE 1:50E7 1:514D 1:52C9
  1:52E4 1:5351 1:559D 1:5606 1:5668 1:5840 1:58A8 1:5C64 1:5C6E 1:6094 1:6168 1:618E 1:61F2 1:654F
  1:65E2 1:6691 1:6885 1:6D77 1:6E1A 1:6F22 1:716E 1:722B 1:7422 1:7891 1:793E 1:7949 1:7948 1:7950
  1:7956 1:795D 1:798D 1:798E 1:7A40 1:7A81 1:7BC0 1:7DF4 1:7E09 1:7E41 1:7F72 1:8005 1:81ED 1:8279
  1:8279 1:8457 1:8910 1:8996 1:8B01 1:8B39 1:8CD3 1:8D08 1:8FB6 1:9038 1:96E3 1:97FF 1:983B 1:6075
  1:242EE 1:8218 2- 1:4E26 1:51B5 1:5168 1:4F80 1:5145 1:5180 1:52C7 1:52FA 1:559D 1:5555 1:5599
  1:55E2 1:585A 1:58B3 1:5944 1:5954 1:5A62 1:5B28 1:5ED2 1:5ED9 1:5F69 1:5FAD 1:60D8 1:614E 1:6108
  1:618E 1:6160 1:61F2 1:6234 1:63C4 1:641C 1:6452 1:6556 1:6674 1:6717 1:671B 1:6756 1:6B79 1:6BBA
  1:6D41 1:6EDB 1:6ECB 1:6F22 1:701E 1:716E 1:77A7 1:7235 1:72AF 1:732A 1:7471 1:7506 1:753B 1:761D
  1:761F 1:76CA 1:76DB 1:76F4 1:774A 1:7740 1:78CC 1:7AB1 1:7BC0 1:7C7B 1:7D5B 1:7DF4 1:7F3E 1:8005
  1:8352 1:83EF 1:8779 1:8941 1:8986 1:8996 1:8ABF 1:8AF8 1:8ACB 1:8B01 1:8AFE 1:8AED 1:8B39 1:8B8A
  1:8D08 1:8F38 1:9072 1:9199 1:9276 1:967C 1:96E3 1:9756 1:97DB 1:97FF 1:980B 1:983B 1:9B12 1:9F9C
  1:2284A 1:22844 1:233D5 1:3B9D 1:4018 1:4039 1:25249 1:25CD0 1:27ED3 1:9F43 1:9F8E 38- 1~66.66
  1~66.69 1~66.6C 1~66.66.69 1~66.66.6C 1~17F.74 1~73.74 12- 1~574.576 1~574.565 1~574.56B
  1~57E.576 1~574.56D 5- 1:5D9.5B4 1- 1:5F2.5B7 1~5E2 1~5D0 1~5D3 1~5D4 1~5DB 1~5DC 1~5DD 1~5E8
  1~5EA 1~2B 1:5E9.5C1 1:5E9.5C2 1:FB49.5C1 1:FB49.5C2 1:5D0.5B7 1:5D0.5B8 1:5D0.5BC 1:5D1.5BC
  1:5D2.5BC 1:5D3.5BC 1:5D4.5BC 1:5D5.5BC 1:5D6.5BC 1- 1:5D8.5BC 1:5D9.5BC 1:5DA.5BC 1:5DB.5BC
  1:5DC.5BC 1- 1:5DE.5BC 1- 1:5E0.5BC 1:5E1.5BC 1- 1:5E3.5BC 1:5E4.5BC 1- 1:5E6.5BC 1:5E7.5BC
  1:5E8.5BC 1:5E9.5BC 1:5EA.5BC 1:5D5.5B9 1:5D1.5BF 1:5DB.5BF 1:5E4.5BF 1~5D0.5DC 1~671 1~671 1~67B
  1~67B 1~67B 1~67B 1~67E 1~67E 1~67E 1~67E 1~680 1~680 1~680 1~680 1~67A 1~67A 1~67A 1~67A 1~67F
  1~67F 1~67F 1~67F 1~679 1~679 1~679 1~679 1~6A4 1~6A4 1~6A4 1~6A4 1~6A6 1~6A6 1~6A6 1~6A6 1~684
  1~684 1~684 1~684 1~683 1~683 1~683 1~683 1~686 1~686 1~686 1~686 1~687 1~687 1~687 1~687 1~68D
  1~68D 1~68C 1~68C 1~68E 1~68E 1~688 1~688 1~698 1~698 1~691 1~691 1~6A9 1~6A9 1~6A9 1~6A9 1~6AF
  1~6AF 1~6AF 1~6AF 1~6B3 1~6B3 1~6B3 1~6B3 1~6B1 1~6B1 1~6B1 1~6B1 1~6BA 1~6BA 1~6BB 1~6BB 1~6BB
  1~6BB 1~6C0 1~6C0 1~6C1 1~6C1 1~6C1 1~6C1 1~6BE 1~6BE 1~6BE 1~6BE 1~6D2 1~6D2 1~6D3 1~6D3 33-
  1~6AD 1~6AD 1~6AD 1~6AD 1~6C7 1~6C7 1~6C6 1~6C6 1~6C8 1~6C8 1~677 1~6CB 1~6CB 1~6C5 1~6C5 1~6C9
  1~6C9 1~6D0 1~6D0 1~6D0 1~6D0 1~649 1~649 1~626.627 1~626.627 1~626.6D5 1~626.6D5 1~626.648
  1~626.648 1~626.6C7 1~626.6C7 1~626.6C6 1~626.6C6 1~626.6C8 1~626.6C8 1~626.6D0 1~626.6D0
  1~626.6D0 1~626.649 1~626.649 1~626.649 1~6CC 1~6CC 1~6CC 1~6CC 1~626.62C 1~626.62D 1~626.645
  1~626.649 1~626.64A 1~628.62C 1~628.62D 1~628.62E 1~628.645 1~628.649 1~628.64A 1~62A.62C
  1~62A.62D 1~62A.62E 1~62A.645 1~62A.649 1~62A.64A 1~62B.62C 1~62B.645 1~62B.649 1~62B.64A
  1~62C.62D 1~62C.645 1~62D.62C 1~62D.645 1~62E.62C 1~62E.62D 1~62E.645 1~633.62C 1~633.62D
  1~633.62E 1~633.645 1~635.62D 1~635.645 1~636.62C 1~636.62D 1~636.62E 1~636.645 1~637.62D
  1~637.645 1~638.645 1~639.62C 1~639.645 1~63A.62C 1~63A.645 1~641.62C 1~641.62D 1~641.62E
  1~641.645 1~641.649 1~641.64A 1~642.62D 1~642.645 1~642.649 1~642.64A 1~643.627 1~643.62C
  1~643.62D 1~643.62E 1~643.644 1~643.645 1~643.649 1~643.64A 1~644.62C 1~644.62D 1~644.62E
  1~644.645 1~644.649 1~644.64A 1~645.62C 1~645.62D 1~645.62E 1~645.645 1~645.649 1~645.64A
  1~646.62C 1~646.62D 1~646.62E 1~646.645 1~646.649 1~646.64A 1~647.62C 1~647.645 1~647.649
  1~647.64A 1~64A.62C 1~64A.62D 1~64A.62E 1~64A.645 1~64A.649 1~64A.64A 1~630.670 1~631.670
  1~649.670 1~20.64C.651 1~20.64D.651 1~20.64E.651 1~20.64F.651 1~20.650.651 1~20.651.670 1~626.631
  1~626.632 1~626.645 1~626.646 1~626.649 1~626.64A 1~628.631 1~628.632 1~628.645 1~628.646
  1~628.649 1~628.64A 1~62A.631 1~62A.632 1~62A.645 1~62A.646 1~62A.649 1~62A.64A 1~62B.631
  1~62B.632 1~62B.645 1~62B.646 1~62B.649 1~62B.64A 1~641.649 1~641.64A 1~642.649 1~642.64A
  1~643.627 1~643.644 1~643.645 1~643.649 1~643.64A 1~644.645 1~644.649 1~644.64A 1~645.627
  1~645.645 1~646.631 1~646.632 1~646.645 1~646.646 1~646.649 1~646.64A 1~649.670 1~64A.631
  1~64A.632 1~64A.645 1~64A.646 1~64A.649 1~64A.64A 1~626.62C 1~626.62D 1~626.62E 1~626.645
  1~626.647 1~628.62C 1~628.62D 1~628.62E 1~628.645 1~628.647 1~62A.62C 1~62A.62D 1~62A.62E
  1~62A.645 1~62A.647 1~62B.645 1~62C.62D 1~62C.645 1~62D.62C 1~62D.645 1~62E.62C 1~62E.645
  1~633.62C 1~633.62D 1~633.62E 1~633.645 1~635.62D 1~635.62E 1~635.645 1~636.62C 1~636.62D
  1~636.62E 1~636.645 1~637.62D 1~638.645 1~639.62C 1~639.645 1~63A.62C 1~63A.645 1~641.62C
  1~641.62D 1~641.62E 1~641.645 1~642.62D 1~642.645 1~643.62C 1~643.62D 1~643.62E 1~643.644
  1~643.645 1~644.62C 1~644.62D 1~644.62E 1~644.645 1~644.647 1~645.62C 1~645.62D 1~645.62E
  1~645.645 1~646.62C 1~646.62D 1~646.62E 1~646.645 1~646.647 1~647.62C 1~647.645 1~647.670
  1~64A.62C 1~64A.62D 1~64A.62E 1~64A.645 1~64A.647 1~626.645 1~626.647 1~628.645 1~628.647
  1~62A.645 1~62A.647 1~62B.645 1~62B.647 1~633.645 1~633.647 1~634.645 1~634.647 1~643.644
  1~643.645 1~644.645 1~646.645 1~646.647 1~64A.645 1~64A.647 1~640.64E.651 1~640.64F.651
  1~640.650.651 1~637.649 1~637.64A 1~639.649 1~639.64A 1~63A.649 1~63A.64A 1~633.649 1~633.64A
  1~634.649 1~634.64A 1~62D.649 1~62D.64A 1~62C.649 1~62C.64A 1~62E.649 1~62E.64A 1~635.649
  1~635.64A 1~636.649 1~636.64A 1~634.62C 1~634.62D 1~634.62E 1~634.645 1~634.631 1~633.631
  1~635.631 1~636.631 1~637.649 1~637.64A 1~639.649 1~639.64A 1~63A.649 1~63A.64A 1~633.649
  1~633.64A 1~634.649 1~634.64A 1~62D.649 1~62D.64A 1~62C.649 1~62C.64A 1~62E.649 1~62E.64A
  1~635.649 1~635.64A 1~636.649 1~636.64A 1~634.62C 1~634.62D 1~634.62E 1~634.645 1~634.631
  1~633.631 1~635.631 1~636.631 1~634.62C 1~634.62D 1~634.62E 1~634.645 1~633.647 1~634.647
  1~637.645 1~633.62C 1~633.62D 1~633.62E 1~634.62C 1~634.62D 1~634.62E 1~637.645 1~638.645
  1~627.64B 1~627.64B 18- 1~62A.62C.645 1~62A.62D.62C 1~62A.62D.62C 1~62A.62D.645 1~62A.62E.645
  1~62A.645.62C 1~62A.645.62D 1~62A.645.62E 1~62C.645.62D 1~62C.645.62D 1~62D.645.64A 1~62D.645.649
  1~633.62D.62C 1~633.62C.62D 1~633.62C.649 1~633.645.62D 1~633.645.62D 1~633.645.62C 1~633.645.645
  1~633.645.645 1~635.62D.62D 1~635.62D.62D 1~635.645.645 1~634.62D.645 1~634.62D.645 1~634.62C.64A
  1~634.645.62E 1~634.645.62E 1~634.645.645 1~634.645.645 1~636.62D.649 1~636.62E.645 1~636.62E.645
  1~637.645.62D 1~637.645.62D 1~637.645.645 1~637.645.64A 1~639.62C.645 1~639.645.645 1~639.645.645
  1~639.645.649 1~63A.645.645 1~63A.645.64A 1~63A.645.649 1~641.62E.645 1~641.62E.645 1~642.645.62D
  1~642.645.645 1~644.62D.645 1~644.62D.64A 1~644.62D.649 1~644.62C.62C 1~644.62C.62C 1~644.62E.645
  1~644.62E.645 1~644.645.62D 1~644.645.62D 1~645.62D.62C 1~645.62D.645 1~645.62D.64A 1~645.62C.62D
  1~645.62C.645 1~645.62E.62C 1~645.62E.645 2- 1~645.62C.62E 1~647.645.62C 1~647.645.645
  1~646.62D.645 1~646.62D.649 1~646.62C.645 1~646.62C.645 1~646.62C.649 1~646.645.64A 1~646.645.649
  1~64A.645.645 1~64A.645.645 1~628.62E.64A 1~62A.62C.64A 1~62A.62C.649 1~62A.62E.64A 1~62A.62E.649
  1~62A.645.64A 1~62A.645.649 1~62C.645.64A 1~62C.62D.649 1~62C.645.649 1~633.62E.649 1~635.62D.64A
  1~634.62D.64A 1~636.62D.64A 1~644.62C.64A 1~644.645.64A 1~64A.62D.64A 1~64A.62C.64A 1~64A.645.64A
  1~645.645.64A 1~642.645.64A 1~646.62D.64A 1~642.645.62D 1~644.62D.645 1~639.645.64A 1~643.645.64A
  1~646.62C.62D 1~645.62E.64A 1~644.62C.645 1~643.645.645 1~644.62C.645 1~646.62C.62D 1~62C.62D.64A
  1~62D.62C.64A 1~645.62C.64A 1~641.645.64A 1~628.62D.64A 1~643.645.645 1~639.62C.645 1~635.645.645
  1~633.62E.64A 1~646.62C.64A 40- 1~635.644.6D2 1~642.644.6D2 1~627.644.644.647 1~627.643.628.631
  1~645.62D.645.62F 1~635.644.639.645 1~631.633.648.644 1~639.644.64A.647 1~648.633.644.645
  1~635.644.649 1~635.644.649.20.627.644.644.647.20.639.644.64A.647.20.648.633.644.645
  1~62C.644.20.62C.644.627.644.647 1~631.6CC.627.644 19- 1~2C 1~3001 1~3002 1~3A 1~3B 1~21 1~3F
  1~3016 1~3017 1~2026 22- 1~2025 1~2014 1~2013 1~5F 1~5F 1~28 1~29 1~7B 1~7D 1~3014 1~3015 1~3010
  1~3011 1~300A 1~300B 1~3008 1~3009 1~300C 1~300D 1~300E 1~300F 2- 1~5B 1~5D 1~203E 1~203E 1~203E
  1~203E 1~5F 1~5F 1~5F 1~2C 1~3001 1~2E 1- 1~3B 1~3A 1~3F 1~21 1~2014 1~28 1~29 1~7B 1~7D 1~3014
  1~3015 1~23 1~26 1~2A 1~2B 1~2D 1~3C 1~3E 1~3D 1- 1~5C 1~24 1~25 1~40 4- 1~20.64B 1~640.64B
  1~20.64C 1- 1~20.64D 1- 1~20.64E 1~640.64E 1~20.64F 1~640.64F 1~20.650 1~640.650 1~20.651
  1~640.651 1~20.652 1~640.652 1~621 1~622 1~622 1~623 1~623 1~624 1~624 1~625 1~625 1~626 1~626
  1~626 1~626 1~627 1~627 1~628 1~628 1~628 1~628 1~629 1~629 1~62A 1~62A 1~62A 1~62A 1~62B 1~62B
  1~62B 1~62B 1~62C 1~62C 1~62C 1~62C 1~62D 1~62D 1~62D 1~62D 1~62E 1~62E 1~62E 1~62E 1~62F 1~62F
  1~630 1~630 1~631 1~631 1~632 1~632 1~633 1~633 1~633 1~633 1~634 1~634 1~634 1~634 1~635 1~635
  1~635 1~635 1~636 1~636 1~636 1~636 1~637 1~637 1~637 1~637 1~638 1~638 1~638 1~638 1~639 1~639
  1~639 1~639 1~63A 1~63A 1~63A 1~63A 1~641 1~641 1~641 1~641 1~642 1~642 1~642 1~642 1~643 1~643
  1~643 1~643 1~644 1~644 1~644 1~644 1~645 1~645 1~645 1~645 1~646 1~646 1~646 1~646 1~647 1~647
  1~647 1~647 1~648 1~648 1~649 1~649 1~64A 1~64A 1~64A 1~64A 1~644.622 1~644.622 1~644.623
  1~644.623 1~644.625 1~644.625 1~644.627 1~644.627 4- 1~21 1~22 1~23 1~24 1~25 1~26 1~27 1~28 1~29
  1~2A 1~2B 1~2C 1~2D 1~2E 1~2F 1~30 1~31 1~32 1~33 1~34 1~35 1~36 1~37 1~38 1~39 1~3A 1~3B 1~3C
  1~3D 1~3E 1~3F 1~40 1~41 1~42 1~43 1~44 1~45 1~46 1~47 1~48 1~49 1~4A 1~4B 1~4C 1~4D 1~4E 1~4F
  1~50 1~51 1~52 1~53 1~54 1~55 1~56 1~57 1~58 1~59 1~5A 1~5B 1~5C 1~5D 1~5E 1~5F 1~60 1~61 1~62
  1~63 1~64 1~65 1~66 1~67 1~68 1~69 1~6A 1~6B 1~6C 1~6D 1~6E 1~6F 1~70 1~71 1~72 1~73 1~74 1~75
  1~76 1~77 1~78 1~79 1~7A 1~7B 1~7C 1~7D 1~7E 1~2985 1~2986 1~3002 1~300C 1~300D 1~3001 1~30FB
  1~30F2 1~30A1 1~30A3 1~30A5 1~30A7 1~30A9 1~30E3 1~30E5 1~30E7 1~30C3 1~30FC 1~30A2 1~30A4 1~30A6
  1~30A8 1~30AA 1~30AB 1~30AD 1~30AF 1~30B1 1~30B3 1~30B5 1~30B7 1~30B9 1~30BB 1~30BD 1~30BF 1~30C1
  1~30C4 1~30C6 1~30C8 1~30CA 1~30CB 1~30CC 1~30CD 1~30CE 1~30CF 1~30D2 1~30D5 1~30D8 1~30DB 1~30DE
  1~30DF 1~30E0 1~30E1 1~30E2 1~30E4 1~30E6 1~30E8 1~30E9 1~30EA 1~30EB 1~30EC 1~30ED 1~30EF 1~30F3
  1~3099 1~309A 1~3164 1~3131 1~3132 1~3133 1~3134 1~3135 1~3136 1~3137 1~3138 1~3139 1~313A 1~313B
  1~313C 1~313D 1~313E 1~313F 1~3140 1~3141 1~3142 1~3143 1~3144 1~3145 1~3146 1~3147 1~3148 1~3149
  1~314A 1~314B 1~314C 1~314D 1~314E 3- 1~314F 1~3150 1~3151 1~3152 1~3153 1~3154 2- 1~3155 1~3156
  1~3157 1~3158 1~3159 1~315A 2- 1~315B 1~315C 1~315D 1~315E 1~315F 1~3160 2- 1~3161 1~3162 1~3163
  3- 1~A2 1~A3 1~AC 1~AF 1~A6 1~A5 1~20A9 1- 1~2502 1~2190 1~2191 1~2192 1~2193 1~25A0 1~25CB 4267-
  1=11099.110BA 1- 1=1109B.110BA 14- 1=110A5.110BA 130- 1=11131.11127 1=11132.11127 539-
  1=11347.1133E 1=11347.11357 366- 1=114B9.114BA 1=114B9.114B0 1- 1=114B9.114BD 251- 1=115B8.115AF
  1=115B9.115AF 48034- 1:1D157.1D165 1:1D158.1D165 1:1D15F.1D16E 1:1D15F.1D16F 1:1D15F.1D170
  1:1D15F.1D171 1:1D15F.1D172 86- 1:1D1B9.1D165 1:1D1BA.1D165 1:1D1BB.1D16E 1:1D1BC.1D16E
  1:1D1BB.1D16F 1:1D1BC.1D16F 575- 1~41 1~42 1~43 1~44 1~45 1~46 1~47 1~48 1~49 1~4A 1~4B 1~4C 1~4D
  1~4E 1~4F 1~50 1~51 1~52 1~53 1~54 1~55 1~56 1~57 1~58 1~59 1~5A 1~61 1~62 1~63 1~64 1~65 1~66
  1~67 1~68 1~69 1~6A 1~6B 1~6C 1~6D 1~6E 1~6F 1~70 1~71 1~72 1~73 1~74 1~75 1~76 1~77 1~78 1~79
  1~7A 1~41 1~42 1~43 1~44 1~45 1~46 1~47 1~48 1~49 1~4A 1~4B 1~4C 1~4D 1~4E 1~4F 1~50 1~51 1~52
  1~53 1~54 1~55 1~56 1~57 1~58 1~59 1~5A 1~61 1~62 1~63 1~64 1~65 1~66 1~67 1- 1~69 1~6A 1~6B 1~6C
  1~6D 1~6E 1~6F 1~70 1~71 1~72 1~73 1~74 1~75 1~76 1~77 1~78 1~79 1~7A 1~41 1~42 1~43 1~44 1~45
  1~46 1~47 1~48 1~49 1~4A 1~4B 1~4C 1~4D 1~4E 1~4F 1~50 1~51 1~52 1~53 1~54 1~55 1~56 1~57 1~58
  1~59 1~5A 1~61 1~62 1~63 1~64 1~65 1~66 1~67 1~68 1~69 1~6A 1~6B 1~6C 1~6D 1~6E 1~6F 1~70 1~71
  1~72 1~73 1~74 1~75 1~76 1~77 1~78 1~79 1~7A 1~41 1- 1~43 1~44 2- 1~47 2- 1~4A 1~4B 2- 1~4E 1~4F
  1~50 1~51 1- 1~53 1~54 1~55 1~56 1~57 1~58 1~59 1~5A 1~61 1~62 1~63 1~64 1- 1~66 1- 1~68 1~69
  1~6A 1~6B 1~6C 1~6D 1~6E 1- 1~70 1~71 1~72 1~73 1~74 1~75 1~76 1~77 1~78 1~79 1~7A 1~41 1~42 1~43
  1~44 1~45 1~46 1~47 1~48 1~49 1~4A 1~4B 1~4C 1~4D 1~4E 1~4F 1~50 1~51 1~52 1~53 1~54 1~55 1~56
  1~57 1~58 1~59 1~5A 1~61 1~62 1~63 1~64 1~65 1~66 1~67 1~68 1~69 1~6A 1~6B 1~6C 1~6D 1~6E 1~6F
  1~70 1~71 1~72 1~73 1~74 1~75 1~76 1~77 1~78 1~79 1~7A 1~41 1~42 1- 1~44 1~45 1~46 1~47 2- 1~4A
  1~4B 1~4C 1~4D 1~4E 1~4F 1~50 1~51 1- 1~53 1~54 1~55 1~56 1~57 1~58 1~59 1- 1~61 1~62 1~63 1~64
  1~65 1~66 1~67 1~68 1~69 1~6A 1~6B 1~6C 1~6D 1~6E 1~6F 1~70 1~71 1~72 1~73 1~74 1~75 1~76 1~77
  1~78 1~79 1~7A 1~41 1~42 1- 1~44 1~45 1~46 1~47 1- 1~49 1~4A 1~4B 1~4C 1~4D 1- 1~4F 3- 1~53 1~54
  1~55 1~56 1~57 1~58 1~59 1- 1~61 1~62 1~63 1~64 1~65 1~66 1~67 1~68 1~69 1~6A 1~6B 1~6C 1~6D 1~6E
  1~6F 1~70 1~71 1~72 1~73 1~74 1~75 1~76 1~77 1~78 1~79 1~7A 1~41 1~42 1~43 1~44 1~45 1~46 1~47
  1~48 1~49 1~4A 1~4B 1~4C 1~4D 1~4E 1~4F 1~50 1~51 1~52 1~53 1~54 1~55 1~56 1~57 1~58 1~59 1~5A
  1~61 1~62 1~63 1~64 1~65 1~66 1~67 1~68 1~69 1~6A 1~6B 1~6C 1~6D 1~6E 1~6F 1~70 1~71 1~72 1~73
  1~74 1~75 1~76 1~77 1~78 1~79 1~7A 1~41 1~42 1~43 1~44 1~45 1~46 1~47 1~48 1~49 1~4A 1~4B 1~4C
  1~4D 1~4E 1~4F 1~50 1~51 1~52 1~53 1~54 1~55 1~56 1~57 1~58 1~59 1~5A 1~61 1~62 1~63 1~64 1~65
  1~66 1~67 1~68 1~69 1~6A 1~6B 1~6C 1~6D 1~6E 1~6F 1~70 1~71 1~72 1~73 1~74 1~75 1~76 1~77 1~78
  1~79 1~7A 1~41 1~42 1~43 1~44 1~45 1~46 1~47 1~48 1~49 1~4A 1~4B 1~4C 1~4D 1~4E 1~4F 1~50 1~51
  1~52 1~53 1~54 1~55 1~56 1~57 1~58 1~59 1~5A 1~61 1~62 1~63 1~64 1~65 1~66 1~67 1~68 1~69 1~6A
  1~6B 1~6C 1~6D 1~6E 1~6F 1~70 1~71 1~72 1~73 1~74 1~75 1~76 1~77 1~78 1~79 1~7A 1~41 1~42 1~43
  1~44 1~45 1~46 1~47 1~48 1~49 1~4A 1~4B 1~4C 1~4D 1~4E 1~4F 1~50 1~51 1~52 1~53 1~54 1~55 1~56
  1~57 1~58 1~59 1~5A 1~61 1~62 1~63 1~64 1~65 1~66 1~67 1~68 1~69 1~6A 1~6B 1~6C 1~6D 1~6E 1~6F
  1~70 1~71 1~72 1~73 1~74 1~75 1~76 1~77 1~78 1~79 1~7A 1~41 1~42 1~43 1~44 1~45 1~46 1~47 1~48
  1~49 1~4A 1~4B 1~4C 1~4D 1~4E 1~4F 1~50 1~51 1~52 1~53 1~54 1~55 1~56 1~57 1~58 1~59 1~5A 1~61
  1~62 1~63 1~64 1~65 1~66 1~67 1~68 1~69 1~6A 1~6B 1~6C 1~6D 1~6E 1~6F 1~70 1~71 1~72 1~73 1~74
  1~75 1~76 1~77 1~78 1~79 1~7A 1~41 1~42 1~43 1~44 1~45 1~46 1~47 1~48 1~49 1~4A 1~4B 1~4C 1~4D
  1~4E 1~4F 1~50 1~51 1~52 1~53 1~54 1~55 1~56 1~57 1~58 1~59 1~5A 1~61 1~62 1~63 1~64 1~65 1~66
  1~67 1~68 1~69 1~6A 1~6B 1~6C 1~6D 1~6E 1~6F 1~70 1~71 1~72 1~73 1~74 1~75 1~76 1~77 1~78 1~79
  1~7A 1~131 1~237 2- 1~391 1~392 1~393 1~394 1~395 1~396 1~397 1~398 1~399 1~39A 1~39B 1~39C 1~39D
  1~39E 1~39F 1~3A0 1~3A1 1~3F4 1~3A3 1~3A4 1~3A5 1~3A6 1~3A7 1~3A8 1~3A9 1~2207 1~3B1 1~3B2 1~3B3
  1~3B4 1~3B5 1~3B6 1~3B7 1~3B8 1~3B9 1~3BA 1~3BB 1~3BC 1~3BD 1~3BE 1~3BF 1~3C0 1~3C1 1~3C2 1~3C3
  1~3C4 1~3C5 1~3C6 1~3C7 1~3C8 1~3C9 1~2202 1~3F5 1~3D1 1~3F0 1~3D5 1~3F1 1~3D6 1~391 1~392 1~393
  1~394 1~395 1~396 1~397 1~398 1~399 1~39A 1~39B 1~39C 1~39D 1~39E 1~39F 1~3A0 1~3A1 1~3F4 1~3A3
  1~3A4 1~3A5 1~3A6 1~3A7 1~3A8 1~3A9 1~2207 1~3B1 1~3B2 1~3B3 1~3B4 1~3B5 1~3B6 1~3B7 1~3B8 1~3B9
  1~3BA 1~3BB 1~3BC 1~3BD 1~3BE 1~3BF 1~3C0 1~3C1 1~3C2 1~3C3 1~3C4 1~3C5 1~3C6 1~3C7 1~3C8 1~3C9
  1~2202 1~3F5 1~3D1 1~3F0 1~3D5 1~3F1 1~3D6 1~391 1~392 1~393 1~394 1~395 1~396 1~397 1~398 1~399
  1~39A 1~39B 1~39C 1~39D 1~39E 1~39F 1~3A0 1~3A1 1~3F4 1~3A3 1~3A4 1~3A5 1~3A6 1~3A7 1~3A8 1~3A9
  1~2207 1~3B1 1~3B2 1~3B3 1~3B4 1~3B5 1~3B6 1~3B7 1~3B8 1~3B9 1~3BA 1~3BB 1~3BC 1~3BD 1~3BE 1~3BF
  1~3C0 1~3C1 1~3C2 1~3C3 1~3C4 1~3C5 1~3C6 1~3C7 1~3C8 1~3C9 1~2202 1~3F5 1~3D1 1~3F0 1~3D5 1~3F1
  1~3D6 1~391 1~392 1~393 1~394 1~395 1~396 1~397 1~398 1~399 1~39A 1~39B 1~39C 1~39D 1~39E 1~39F
  1~3A0 1~3A1 1~3F4 1~3A3 1~3A4 1~3A5 1~3A6 1~3A7 1~3A8 1~3A9 1~2207 1~3B1 1~3B2 1~3B3 1~3B4 1~3B5
  1~3B6 1~3B7 1~3B8 1~3B9 1~3BA 1~3BB 1~3BC 1~3BD 1~3BE 1~3BF 1~3C0 1~3C1 1~3C2 1~3C3 1~3C4 1~3C5
  1~3C6 1~3C7 1~3C8 1~3C9 1~2202 1~3F5 1~3D1 1~3F0 1~3D5 1~3F1 1~3D6 1~391 1~392 1~393 1~394 1~395
  1~396 1~397 1~398 1~399 1~39A 1~39B 1~39C 1~39D 1~39E 1~39F 1~3A0 1~3A1 1~3F4 1~3A3 1~3A4 1~3A5
  1~3A6 1~3A7 1~3A8 1~3A9 1~2207 1~3B1 1~3B2 1~3B3 1~3B4 1~3B5 1~3B6 1~3B7 1~3B8 1~3B9 1~3BA 1~3BB
  1~3BC 1~3BD 1~3BE 1~3BF 1~3C0 1~3C1 1~3C2 1~3C3 1~3C4 1~3C5 1~3C6 1~3C7 1~3C8 1~3C9 1~2202 1~3F5
  1~3D1 1~3F0 1~3D5 1~3F1 1~3D6 1~3DC 1~3DD 2- 1~30 1~31 1~32 1~33 1~34 1~35 1~36 1~37 1~38 1~39
  1~30 1~31 1~32 1~33 1~34 1~35 1~36 1~37 1~38 1~39 1~30 1~31 1~32 1~33 1~34 1~35 1~36 1~37 1~38
  1~39 1~30 1~31 1~32 1~33 1~34 1~35 1~36 1~37 1~38 1~39 1~30 1~31 1~32 1~33 1~34 1~35 1~36 1~37
  1~38 1~39 5632- 1~627 1~628 1~62C 1~62F 1- 1~648 1~632 1~62D 1~637 1~64A 1~643 1~644 1~645 1~646
  1~633 1~639 1~641 1~635 1~642 1~631 1~634 1~62A 1~62B 1~62E 1~630 1~636 1~638 1~63A 1~66E 1~6BA
  1~6A1 1~66F 1- 1~628 1~62C 1- 1~647 2- 1~62D 1- 1~64A 1~643 1~644 1~645 1~646 1~633 1~639 1~641
  1~635 1~642 1- 1~634 1~62A 1~62B 1~62E 1- 1~636 1- 1~63A 6- 1~62C 4- 1~62D 1- 1~64A 1- 1~644 1-
  1~646 1~633 1~639 1- 1~635 1~642 1- 1~634 2- 1~62E 1- 1~636 1- 1~63A 1- 1~6BA 1- 1~66F 1- 1~628
  1~62C 1- 1~647 2- 1~62D 1~637 1~64A 1~643 1- 1~645 1~646 1~633 1~639 1~641 1~635 1~642 1- 1~634
  1~62A 1~62B 1~62E 1- 1~636 1~638 1~63A 1~66E 1- 1~6A1 1- 1~627 1~628 1~62C 1~62F 1~647 1~648
  1~632 1~62D 1~637 1~64A 1- 1~644 1~645 1~646 1~633 1~639 1~641 1~635 1~642 1~631 1~634 1~62A
  1~62B 1~62E 1~630 1~636 1~638 1~63A 5- 1~628 1~62C 1~62F 1- 1~648 1~632 1~62D 1~637 1~64A 1-
  1~644 1~645 1~646 1~633 1~639 1~641 1~635 1~642 1~631 1~634 1~62A 1~62B 1~62E 1~630 1~636 1~638
  1~63A 580- 1~30.2E 1~30.2C 1~31.2C 1~32.2C 1~33.2C 1~34.2C 1~35.2C 1~36.2C 1~37.2C 1~38.2C
  1~39.2C 5- 1~28.41.29 1~28.42.29 1~28.43.29 1~28.44.29 1~28.45.29 1~28.46.29 1~28.47.29
  1~28.48.29 1~28.49.29 1~28.4A.29 1~28.4B.29 1~28.4C.29 1~28.4D.29 1~28.4E.29 1~28.4F.29
  1~28.50.29 1~28.51.29 1~28.52.29 1~28.53.29 1~28.54.29 1~28.55.29 1~28.56.29 1~28.57.29
  1~28.58.29 1~28.59.29 1~28.5A.29 1~3014.53.3015 1~43 1~52 1~43.44 1~57.5A 1- 1~41 1~42 1~43 1~44
  1~45 1~46 1~47 1~48 1~49 1~4A 1~4B 1~4C 1~4D 1~4E 1~4F 1~50 1~51 1~52 1~53 1~54 1~55 1~56 1~57
  1~58 1~59 1~5A 1~48.56 1~4D.56 1~53.44 1~53.53 1~50.50.56 1~57.43 26- 1~4D.43 1~4D.44 1~4D.52 35-
  1~44.4A 111- 1~307B.304B 1~30B3.30B3 1~30B5 13- 1~624B 1~5B57 1~53CC 1~30C7 1~4E8C 1~591A 1~89E3
  1~5929 1~4EA4 1~6620 1~7121 1~6599 1~524D 1~5F8C 1~518D 1~65B0 1~521D 1~7D42 1~751F 1~8CA9 1~58F0
  1~5439 1~6F14 1~6295 1~6355 1~4E00 1~4E09 1~904A 1~5DE6 1~4E2D 1~53F3 1~6307 1~8D70 1~6253 1~7981
  1~7A7A 1~5408 1~6E80 1~6709 1~6708 1~7533 1~5272 1~55B6 1~914D 4- 1~3014.672C.3015
  1~3014.4E09.3015 1~3014.4E8C.3015 1~3014.5B89.3015 1~3014.70B9.3015 1~3014.6253.3015
  1~3014.76D7.3015 1~3014.52DD.3015 1~3014.6557.3015 7- 1~5F97 1~53EF 66990- 1:4E3D 1:4E38 1:4E41
  1:20122 1:4F60 1:4FAE 1:4FBB 1:5002 1:507A 1:5099 1:50E7 1:50CF 1:349E 1:2063A 1:514D 1:5154
  1:5164 1:5177 1:2051C 1:34B9 1:5167 1:518D 1:2054B 1:5197 1:51A4 1:4ECC 1:51AC 1:51B5 1:291DF
  1:51F5 1:5203 1:34DF 1:523B 1:5246 1:5272 1:5277 1:3515 1:52C7 1:52C9 1:52E4 1:52FA 1:5305 1:5306
  1:5317 1:5349 1:5351 1:535A 1:5373 1:537D 1:537F 1:537F 1:537F 1:20A2C 1:7070 1:53CA 1:53DF
  1:20B63 1:53EB 1:53F1 1:5406 1:549E 1:5438 1:5448 1:5468 1:54A2 1:54F6 1:5510 1:5553 1:5563
  1:5584 1:5584 1:5599 1:55AB 1:55B3 1:55C2 1:5716 1:5606 1:5717 1:5651 1:5674 1:5207 1:58EE 1:57CE
  1:57F4 1:580D 1:578B 1:5832 1:5831 1:58AC 1:214E4 1:58F2 1:58F7 1:5906 1:591A 1:5922 1:5962
  1:216A8 1:216EA 1:59EC 1:5A1B 1:5A27 1:59D8 1:5A66 1:36EE 1:36FC 1:5B08 1:5B3E 1:5B3E 1:219C8
  1:5BC3 1:5BD8 1:5BE7 1:5BF3 1:21B18 1:5BFF 1:5C06 1:5F53 1:5C22 1:3781 1:5C60 1:5C6E 1:5CC0
  1:5C8D 1:21DE4 1:5D43 1:21DE6 1:5D6E 1:5D6B 1:5D7C 1:5DE1 1:5DE2 1:382F 1:5DFD 1:5E28 1:5E3D
  1:5E69 1:3862 1:22183 1:387C 1:5EB0 1:5EB3 1:5EB6 1:5ECA 1:2A392 1:5EFE 1:22331 1:22331 1:8201
  1:5F22 1:5F22 1:38C7 1:232B8 1:261DA 1:5F62 1:5F6B 1:38E3 1:5F9A 1:5FCD 1:5FD7 1:5FF9 1:6081
  1:393A 1:391C 1:6094 1:226D4 1:60C7 1:6148 1:614C 1:614E 1:614C 1:617A 1:618E 1:61B2 1:61A4
  1:61AF 1:61DE 1:61F2 1:61F6 1:6210 1:621B 1:625D 1:62B1 1:62D4 1:6350 1:22B0C 1:633D 1:62FC
  1:6368 1:6383 1:63E4 1:22BF1 1:6422 1:63C5 1:63A9 1:3A2E 1:6469 1:647E 1:649D 1:6477 1:3A6C
  1:654F 1:656C 1:2300A 1:65E3 1:66F8 1:6649 1:3B19 1:6691 1:3B08 1:3AE4 1:5192 1:5195 1:6700
  1:669C 1:80AD 1:43D9 1:6717 1:671B 1:6721 1:675E 1:6753 1:233C3 1:3B49 1:67FA 1:6785 1:6852
  1:6885 1:2346D 1:688E 1:681F 1:6914 1:3B9D 1:6942 1:69A3 1:69EA 1:6AA8 1:236A3 1:6ADB 1:3C18
  1:6B21 1:238A7 1:6B54 1:3C4E 1:6B72 1:6B9F 1:6BBA 1:6BBB 1:23A8D 1:21D0B 1:23AFA 1:6C4E 1:23CBC
  1:6CBF 1:6CCD 1:6C67 1:6D16 1:6D3E 1:6D77 1:6D41 1:6D69 1:6D78 1:6D85 1:23D1E 1:6D34 1:6E2F
  1:6E6E 1:3D33 1:6ECB 1:6EC7 1:23ED1 1:6DF9 1:6F6E 1:23F5E 1:23F8E 1:6FC6 1:7039 1:701E 1:701B
  1:3D96 1:704A 1:707D 1:7077 1:70AD 1:20525 1:7145 1:24263 1:719C 1:243AB 1:7228 1:7235 1:7250
  1:24608 1:7280 1:7295 1:24735 1:24814 1:737A 1:738B 1:3EAC 1:73A5 1:3EB8 1:3EB8 1:7447 1:745C
  1:7471 1:7485 1:74CA 1:3F1B 1:7524 1:24C36 1:753E 1:24C92 1:7570 1:2219F 1:7610 1:24FA1 1:24FB8
  1:25044 1:3FFC 1:4008 1:76F4 1:250F3 1:250F2 1:25119 1:25133 1:771E 1:771F 1:771F 1:774A 1:4039
  1:778B 1:4046 1:4096 1:2541D 1:784E 1:788C 1:78CC 1:40E3 1:25626 1:7956 1:2569A 1:256C5 1:798F
  1:79EB 1:412F 1:7A40 1:7A4A 1:7A4F 1:2597C 1:25AA7 1:25AA7 1:7AEE 1:4202 1:25BAB 1:7BC6 1:7BC9
  1:4227 1:25C80 1:7CD2 1:42A0 1:7CE8 1:7CE3 1:7D00 1:25F86 1:7D63 1:4301 1:7DC7 1:7E02 1:7E45
  1:4334 1:26228 1:26247 1:4359 1:262D9 1:7F7A 1:2633E 1:7F95 1:7FFA 1:8005 1:264DA 1:26523 1:8060
  1:265A8 1:8070 1:2335F 1:43D5 1:80B2 1:8103 1:440B 1:813E 1:5AB5 1:267A7 1:267B5 1:23393 1:2339C
  1:8201 1:8204 1:8F9E 1:446B 1:8291 1:828B 1:829D 1:52B3 1:82B1 1:82B3 1:82BD 1:82E6 1:26B3C
  1:82E5 1:831D 1:8363 1:83AD 1:8323 1:83BD 1:83E7 1:8457 1:8353 1:83CA 1:83CC 1:83DC 1:26C36
  1:26D6B 1:26CD5 1:452B 1:84F1 1:84F3 1:8516 1:273CA 1:8564 1:26F2C 1:455D 1:4561 1:26FB1 1:270D2
  1:456B 1:8650 1:865C 1:8667 1:8669 1:86A9 1:8688 1:870E 1:86E2 1:8779 1:8728 1:876B 1:8786 1:45D7
  1:87E1 1:8801 1:45F9 1:8860 1:8863 1:27667 1:88D7 1:88DE 1:4635 1:88FA 1:34BB 1:278AE 1:27966
  1:46BE 1:46C7 1:8AA0 1:8AED 1:8B8A 1:8C55 1:27CA8 1:8CAB 1:8CC1 1:8D1B 1:8D77 1:27F2F 1:20804
  1:8DCB 1:8DBC 1:8DF0 1:208DE 1:8ED4 1:8F38 1:285D2 1:285ED 1:9094 1:90F1 1:9111 1:2872E 1:911B
  1:9238 1:92D7 1:92D8 1:927C 1:93F9 1:9415 1:28BFA 1:958B 1:4995 1:95B7 1:28D77 1:49E6 1:96C3
  1:5DB2 1:9723 1:29145 1:2921A 1:4A6E 1:4A76 1:97E0 1:2940A 1:4AB2 1:29496 1:980B 1:980B 1:9829
  1:295B6 1:98E2 1:4B33 1:9929 1:99A7 1:99C2 1:99FE 1:4BCE 1:29B30 1:9B12 1:9C40 1:9CFD 1:4CCE
  1:4CED 1:9D67 1:2A0CE 1:4CF8 1:2A105 1:2A20E 1:2A291 1:9EBB 1:4D56 1:9EF9 1:9EFE 1:9F05 1:9F0F
  1:9F16 1:9F3B 1:2A600 919010-"

/-- The combining classes, in order. -/
def classTable : String :=
  "
  768- 21c230 1c232 4c220 1c232 1c216 5c220 2c202 4c220 2c202 11c220 5c1 4c220 8c230 1c240 1c230
  3c220 3c230 2c220 1- 3c230 4c220 1c230 1c232 2c220 1c230 1c233 2c234 1c233 2c234 1c233 13c230
  275- 5c230 265- 1c220 4c230 1c220 3c230 1c222 1c220 6c230 6c220 2c230 1c220 2c230 1c222 1c228
  1c230 1c10 1c11 1c12 1c13 1c14 1c15 1c16 1c17 1c18 2c19 1c20 1c21 1c22 1- 1c23 1- 1c24 1c25 1-
  1c230 1c220 1- 1c18 72- 8c230 1c30 1c31 1c32 48- 1c27 1c28 1c29 1c30 1c31 1c32 1c33 1c34 2c230
  2c220 5c230 1c220 2c230 1c220 16- 1c35 101- 7c230 2- 4c230 1c220 1c230 2- 2c230 1- 1c220 2c230
  1c220 35- 1c36 30- 1c230 1c220 2c230 1c220 2c230 3c220 1c230 2c220 1c230 1c220 3c230 1c220 1c230
  1c220 1c230 1c220 1c230 1c220 2c230 160- 7c230 1c220 1c230 9- 1c220 24- 4c230 1- 9c230 1- 3c230
  1- 5c230 43- 3c220 119- 1c220 14c230 1- 1c220 2c230 1c220 2c230 1c220 3c230 3c220 1c27 1c28 1c29
  3c230 1c220 2c230 2c220 5c230 60- 1c7 16- 1c9 3- 1c230 1c220 2c230 103- 1c7 16- 1c9 48- 1c230 61-
  1c7 16- 1c9 110- 1c7 16- 1c9 110- 1c7 16- 1c9 127- 1c9 127- 1c9 7- 1c84 1c91 101- 1c7 16- 1c9
  109- 2c9 16- 1c9 124- 1c9 109- 2c103 1c9 13- 4c107 108- 2c118 1c9 13- 4c122 76- 2c220 27- 1c220
  1- 1c220 1- 1c216 55- 1c129 1c130 1- 1c132 5- 4c130 2- 1c130 1- 2c230 1c9 1- 2c230 62- 1c220 112-
  1c7 1- 2c9 82- 1c220 719- 3c230 948- 1c9 31- 1c9 157- 1c9 10- 1c230 203- 1c228 143- 1c222 1c230
  1c220 219- 1c230 1c220 71- 1c9 20- 8c230 2- 1c220 48- 5c230 6c220 2c230 1c220 118- 1c7 15- 1c9
  38- 1c230 1c220 7c230 54- 2c9 58- 1c7 11- 2c9 67- 1c7 152- 3c230 1- 1c1 5c220 2c230 4c220 1c230
  1- 7c1 4- 1c220 6- 1c230 3- 2c230 198- 2c230 1c220 7c230 1c220 2c230 1c234 1c214 1c220 1c202
  37c230 1c232 2c228 1c220 1- 1c230 1c233 1c220 1c230 1c220 720- 2c230 2c1 4c230 3c1 2c230 4- 1c230
  3- 2c1 1c230 1c220 1c230 2c1 4c220 1c230 3070- 3c230 141- 1c9 96- 32c230 554- 1c218 1c228 1c232
  1c222 2c224 105- 2c8 30164- 1c230 4- 10c230 32- 2c230 80- 2c230 276- 1c9 189- 1c9 27- 18c230 57-
  3c220 37- 1c9 95- 1c7 12- 1c9 239- 1c230 1- 2c230 1c220 2- 2c230 5- 2c230 1- 1c230 52- 1c9 246-
  1c9 20272- 1c26 769- 7c230 7c220 2c230 973- 1c220 226- 1c220 149- 5c230 1682- 1c220 1- 1c230 40-
  1c230 1c1 1c220 4- 1c9 165- 1c230 1c220 573- 4c230 542- 2c220 3c230 1c220 1c230 4c220 245- 1c9
  56- 1c9 57- 1c9 1c7 69- 3c230 48- 2c9 62- 1c7 76- 1c9 9- 1c7 106- 1c9 1c7 178- 1c7 1c9 80- 2c7
  16- 1c9 24- 7c230 3- 5c230 205- 1c9 3- 1c7 23- 1c230 99- 1c9 1c7 251- 1c9 1c7 126- 1c9 118- 1c9
  1c7 115- 1c9 269- 1c9 1c7 421- 1c9 83- 1c9 18- 1c9 81- 1c9 421- 1c9 258- 1c7 1- 2c9 81- 1c9
  19800- 5c1 59- 7c230 20839- 1c1 5318- 2c216 3c1 3- 1c226 5c216 8- 8c220 2- 5c230 2c220 30- 4c230
  148- 3c230 3515- 7c230 1- 17c230 2- 7c230 1- 2c230 1- 5c230 261- 7c230 437- 4c230 1504- 7c220
  109- 6c230 1c7 988853-"

end NormalForm

end PromptLoop
