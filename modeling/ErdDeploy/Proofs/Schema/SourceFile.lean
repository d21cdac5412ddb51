import ErdDeploy.Proofs.Text.Lines
import ErdDeploy.Proofs.Text.Utf8
import ErdDeploy.Schema.SourceFile

/-!
Sources in files.

A text is read line by line and in no other way, so texts with the same lines are read
alike (`Model.ofText_congr`). The text of a file has its newlines written as line feeds,
which changes no line. So a file that holds a text is read as the text
(`Model.file_read_as_text`): where something stands, how it is reported, and whether it is
refused.
-/

namespace ErdDeploy

theorem Extract.ofText_congr {text text' : String}
    (same : Text.splitLines text.toList = Text.splitLines text'.toList) :
    ofText text = ofText text' := by
  rw [Extract.ofText, Extract.ofText, SourceLine.ofText, SourceLine.ofText, same]

namespace Model

theorem ofText_congr {text text' : String}
    (same : Text.splitLines text.toList = Text.splitLines text'.toList) (rules : NamingRules)
    (strict : Bool) : ofText rules strict text = ofText rules strict text' := by
  rw [ofText, ofText, Extract.ofText_congr same]

theorem readingLog_congr {text text' : String}
    (same : Text.splitLines text.toList = Text.splitLines text'.toList) (rules : NamingRules)
    (strict : Bool) : readingLog rules strict text = readingLog rules strict text' := by
  rw [readingLog, readingLog, Extract.ofText_congr same, ofText_congr same]

end Model

/-- The text of a file is the text that it holds, with its newlines unified. -/
theorem sourceText_of_look {workspace : Workspace} {path : FilePath} {text : String}
    (holds : workspace.look path = .ok (some (.file (Utf8.encode text.toList)))) :
    sourceText workspace path = .ok (String.ofList (Text.unifyNewlines text.toList)) := by
  rw [sourceText, holds]
  simp only [Utf8.decode_encode]

/-- The unified text has the same lines. -/
theorem splitLines_unified (text : String) :
    Text.splitLines (String.ofList (Text.unifyNewlines text.toList)).toList =
      Text.splitLines text.toList := by
  rw [String.toList_ofList, Text.splitLines_unifyNewlines]

namespace Model

/-- **Sources in files.** Reading a file that holds the bytes of a text comes to the same as reading
the text: the same model, or the same refusal for the same reasons, and the same is logged. -/
theorem file_read_as_text {workspace : Workspace} {path : FilePath} {text : String}
    (holds : workspace.look path = .ok (some (.file (Utf8.encode text.toList))))
    (rules : NamingRules) (strict : Bool) :
    ofFile workspace path rules strict = (ofText rules strict text).mapError .refused ∧
      fileLog workspace path rules strict = readingLog rules strict text := by
  have read := sourceText_of_look holds
  have same := splitLines_unified text
  constructor
  · rw [← ofText_congr same, ofFile, read]
    simp only [bind, Except.bind]
  · rw [← readingLog_congr same, fileLog, read]

/-- A text with newlines of all three conventions, a line separator, and characters of one to four
bytes. -/
def mixedNewlines : String :=
  "Enum S \x7b\r\nÄ\r€\n\r\n😀\u2028\x7d\rTable T \x7b\nx\r\n\x7d Ref"

/-- A folder with a single file. -/
def singleFile (bytes : List UInt8) : Workspace :=
  ⟨"/work", FileTree.look [(["s.erd"], .file bytes)], fun _ => none⟩

theorem look_singleFile (bytes : List UInt8) :
    (singleFile bytes).look ⟨.here, ["s.erd"]⟩ = .ok (some (.file bytes)) := by
  cbv

theorem file_read_as_text_of_mixed_newlines :
    (singleFile (Utf8.encode mixedNewlines.toList)).look ⟨.here, ["s.erd"]⟩ =
        .ok (some (.file (Utf8.encode mixedNewlines.toList))) ∧
      ofFile (singleFile (Utf8.encode mixedNewlines.toList)) ⟨.here, ["s.erd"]⟩ {} true =
        (ofText {} true mixedNewlines).mapError .refused ∧
      fileLog (singleFile (Utf8.encode mixedNewlines.toList)) ⟨.here, ["s.erd"]⟩ {} true =
        readingLog {} true mixedNewlines :=
  ⟨look_singleFile _, file_read_as_text (look_singleFile _) {} true⟩

end Model

end ErdDeploy
