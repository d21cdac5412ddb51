import ErdDeploy.Source.Diagnostic
import ErdDeploy.Source.EnumValue
import ErdDeploy.Source.Line
import ErdDeploy.Source.Reference

/-!
Findings: what reading a source yields, in the order in which it is found.

The three kinds of statements and the diagnostics are views of one list, so the order of each
follows from the order of the list.
-/

namespace ErdDeploy

/-- An enum block with its values, each once, in the order of the lines. -/
structure EnumBlock where
  name : String
  values : List String
  line : Int
  deriving DecidableEq, Repr

/-- A table block with the lines of its body that say something. -/
structure TableBlock where
  name : String
  lines : List SourceLine
  line : Int
  deriving DecidableEq, Repr

/-- The values on the lines of a body, in order and each once. -/
def EnumBlock.valuesOf (body : List SourceLine) : List String :=
  (body.filter fun line => !line.isIdle).foldl
    (fun values line => EnumValue.addNew values (EnumValue.clean line.text)) []

/-- The lines of a body that say something. -/
def TableBlock.linesOf (body : List SourceLine) : List SourceLine :=
  body.filter fun line => !line.isIdle

/-- One thing found in a source. -/
inductive Finding
  | enum (block : EnumBlock)
  | table (block : TableBlock)
  | reference (r : Reference)
  | diagnostic (d : Diagnostic)
  deriving DecidableEq, Repr

namespace Finding

/-- The enum block of a finding. -/
def enum? : Finding → Option EnumBlock
  | .enum block => some block
  | _ => none

/-- The table block of a finding. -/
def table? : Finding → Option TableBlock
  | .table block => some block
  | _ => none

/-- The reference of a finding. -/
def reference? : Finding → Option Reference
  | .reference r => some r
  | _ => none

/-- The diagnostic of a finding. -/
def diagnostic? : Finding → Option Diagnostic
  | .diagnostic d => some d
  | _ => none

/-- The same finding some lines further down. -/
def shift (offset : Int) : Finding → Finding
  | .enum block => .enum { block with line := block.line + offset }
  | .table block =>
    .table ⟨block.name, block.lines.map (·.shift offset), block.line + offset⟩
  | .reference r => .reference (r.shift offset)
  | .diagnostic d => .diagnostic { d with line := d.line + offset }

end Finding

/-- The statements and diagnostics of a source, each list in source order. -/
structure Extract where
  enums : List EnumBlock
  tables : List TableBlock
  references : List Reference
  diagnostics : List Diagnostic
  deriving DecidableEq, Repr

/-- The four views of a list of findings. -/
def Extract.ofFindings (findings : List Finding) : Extract where
  enums := findings.filterMap Finding.enum?
  tables := findings.filterMap Finding.table?
  references := findings.filterMap Finding.reference?
  diagnostics := findings.filterMap Finding.diagnostic?

end ErdDeploy
