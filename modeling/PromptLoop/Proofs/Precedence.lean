import Mathlib.Data.List.Nodup
import PromptLoop.CommandLine.Resolve
import PromptLoop.Proofs.GivenFlags

/-!
# Flags over the configuration file

Settings come from one merged configuration: a field has the value of its flag if that is given, else the value from
the file, else none, and only this configuration is checked (`settings_layered`). So a file counts on the fields alone
that the command line leaves unset, whatever it says of the others.
-/

namespace PromptLoop

variable {defaultThreads : Nat} {file file' : Option Fields} {flags : Fields}

/-- The settings depend on a file only through the fields for which no flag is given. -/
theorem Settings.resolve_congr (agree : Fields.Agree flags (file.getD .unset) (file'.getD .unset)) :
    resolve defaultThreads file flags = resolve defaultThreads file' flags :=
  congrArg (ofFields defaultThreads) agree.overlay

namespace CommandLine

theorem settings_of_fileFields {files : FileSystem} {line : CommandLine}
    (parsed : line.fileFields files = .ok file) :
    line.settings files defaultThreads = Settings.resolve defaultThreads file line.fields := by
  rw [settings, parsed]
  rfl

/-- **Flags take precedence over the configuration file field by field, and only the outcome is checked.**

The settings are those of the one configuration in which each field is layered. Files that differ only in fields that
the command line sets lead to the same settings, and the file may as well say anything else of those fields or nothing
at all, so no value of them is ever an error. The fields of the command line are the values of its flags. Laying
sources over each other is associative and idempotent, and the source that sets nothing is neutral on both sides. -/
theorem settings_layered (files : FileSystem) (defaultThreads : Nat) {line : CommandLine} {file : Option Fields}
    (parsed : line.fileFields files = .ok file) :
    (∃ merged, (∀ other, Fields.Layered line.fields (file.getD .unset) other ↔ other = merged) ∧
      line.settings files defaultThreads = Settings.ofFields defaultThreads merged) ∧
    (∀ files' file', line.fileFields files' = .ok file' →
      Fields.Agree line.fields (file.getD .unset) (file'.getD .unset) →
      line.settings files' defaultThreads = line.settings files defaultThreads) ∧
    (∀ lower, Fields.Agree line.fields (file.getD .unset) lower →
      Settings.resolve defaultThreads (some lower) line.fields = line.settings files defaultThreads) ∧
    Settings.resolve defaultThreads (some ((file.getD .unset).without line.fields)) line.fields =
      line.settings files defaultThreads ∧
    (∀ arguments, read arguments = .ok line →
      ∃ givens, (∀ other, Give arguments other ↔ other = givens) ∧ (givens.map Prod.fst).Nodup ∧
        line.config = givens.lookup .config ∧
        ∀ x, (line.fields.get? x).map some = (givens.lookup x.flag).map x.read?) ∧
    (∀ f g h : Fields, (f.overlay g).overlay h = f.overlay (g.overlay h)) ∧
    ∀ f : Fields, f.overlay f = f ∧ f.overlay .unset = f ∧ Fields.unset.overlay f = f := by
  have resolved : line.settings files defaultThreads = Settings.resolve defaultThreads file line.fields :=
    settings_of_fileFields parsed
  have anyFile : ∀ lower, Fields.Agree line.fields (file.getD .unset) lower →
      Settings.resolve defaultThreads (some lower) line.fields = line.settings files defaultThreads := by
    intro lower agree
    rw [resolved]
    symm
    apply Settings.resolve_congr
    exact agree
  refine ⟨⟨_, fun other => Fields.layered_iff, resolved⟩, ?_, anyFile, anyFile _ (Fields.agree_without _ _), ?_,
    Fields.overlay_assoc, fun f => ⟨f.overlay_self, f.overlay_unset, f.unset_overlay⟩⟩
  · intro files' file' parsed' agree
    rw [resolved, settings_of_fileFields parsed', Settings.resolve_congr agree]
  · intro arguments accepted
    exact read_gives accepted

/-- The text of a configuration file with a verbosity that is out of range. -/
def looseText : String :=
  "[loader]\nmodel = \"4b-pt\"\ntokenizer = \"t.json\"\nweights = \"w.gguf\"\n\n[app]\nverbosity = 7\n"

/-- The files of a directory with that file. -/
def looseFiles : FileSystem where
  find path := if path = "loose.toml" then .ok (.file (.bytes (Line.bytes looseText))) else .error .notFound

/-- What that file sets. -/
def looseFields : Fields where
  loader := { tokenizer := "t.json", weights := "w.gguf", model := "4b-pt" }
  app := { verbosity := some 7 }

/-- A command line that names that file and sets the verbosity. -/
def quietLine : CommandLine where
  config := "loose.toml"
  fields := { app := { verbosity := some 0 } }

theorem quietLine_settings_layered :
    read ["--config", "loose.toml", "--verbosity=0"] = .ok quietLine ∧
      quietLine.fileFields looseFiles = .ok (some looseFields) ∧
      Settings.ofFields 1 looseFields = .error (.outOfRange "verbosity must be 0, 1 or 2, got 7") ∧
      Settings.resolve 1 (some (looseFields.without quietLine.fields)) quietLine.fields =
        quietLine.settings looseFiles 1 ∧
      (quietLine.settings looseFiles 1).toBool := by
  have parsed : quietLine.fileFields looseFiles = .ok (some looseFields) := by decide +kernel
  refine ⟨by decide +kernel, parsed, by decide +kernel, (settings_layered looseFiles 1 parsed).2.2.2.1, ?_⟩
  decide +kernel

end CommandLine

end PromptLoop
