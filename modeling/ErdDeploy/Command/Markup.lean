import ErdDeploy.Text.Blank

/-!
Markup: tags in brackets inside a text that is shown on a console.

A tag is a bracket that is followed by a small letter or one of three signs, and closed before
another bracket opens. A backslash in front of it takes away its meaning, and `Markup.escape`
does so with every tag of a text. A tag that begins with a slash closes one that was opened; a
text in which it has none to close cannot be read.

This is how a plain console reads markup (`Console.plain`). What the commands do is told for any
console.
-/

namespace ErdDeploy

/-- Why a console does not show what it is given. -/
structure Refusal where
  text : String
  deriving DecidableEq, Repr

namespace Markup

/-- The characters that may stand first in a tag. -/
def opensTag (c : Char) : Bool :=
  ('a' ≤ c && c ≤ 'z') || c = '#' || c = '/' || c = '@'

/-- Whether what follows a bracket makes it a tag. -/
def isTag : List Char → Bool
  | c :: cs =>
    opensTag c && (cs.dropWhile fun d => d != '[' && d != ']').head? == some ']'
  | [] => false

/-- Some backslashes. -/
def backslashes (count : Nat) : List Char :=
  List.replicate count '\\'

/-- Escape a text that follows some backslashes. Those in front of a tag are doubled and one is
added; all others stay. -/
def escapeAfter (count : Nat) : List Char → List Char
  | [] => backslashes count
  | c :: cs =>
    if c = '\\' then escapeAfter (count + 1) cs
    else if c = '[' && isTag cs then backslashes (2 * count + 1) ++ '[' :: escapeAfter 0 cs
    else backslashes count ++ c :: escapeAfter 0 cs

/-- Whether a text ends in a single backslash. -/
def endsInOneBackslash (cs : List Char) : Bool :=
  match cs.reverse with
  | '\\' :: '\\' :: _ => false
  | '\\' :: _ => true
  | _ => false

/-- A text whose tags are shown as they are. A single backslash at the end is doubled, lest it
take away the meaning of what comes after. -/
def escape (text : String) : String :=
  let escaped := escapeAfter 0 text.toList
  String.ofList (if endsInOneBackslash escaped then escaped ++ ['\\'] else escaped)

/-- A text with a tag around it. -/
def tagged (tag text : String) : String :=
  "[" ++ tag ++ "]" ++ text ++ "[/" ++ tag ++ "]"

/-- The tags that are open behind a tag, the last one first. A closing tag closes the last one of
its name, or the last one of all if it has no name. -/
def openBehind (opened : List (List Char)) : (tag : List Char) → Except Refusal (List (List Char))
  | '/' :: rest =>
    let name := Text.trim rest
    match name, opened with
    | [], [] => .error ⟨"a closing tag has nothing to close"⟩
    | [], _ :: earlier => .ok earlier
    | _, _ =>
      if opened.contains name then .ok (opened.erase name)
      else .error ⟨"the closing tag '" ++ String.ofList name ++ "' matches no open tag"⟩
  | tag => .ok (tag.takeWhile (· != '=') :: opened)

/-- Read a text without colours: tags are dropped and backslashes in front of them halved. While
`inTag`, everything up to the closing bracket is dropped. -/
def readAfter (inTag : Bool) (count : Nat) (opened : List (List Char)) :
    List Char → Except Refusal (List Char)
  | [] => .ok (backslashes count)
  | c :: cs =>
    if inTag then readAfter (c != ']') 0 opened cs
    else if c = '\\' then readAfter false (count + 1) opened cs
    else if c = '[' && isTag cs then do
      if count % 2 = 0 then
        let behind ← openBehind opened (cs.takeWhile (· != ']'))
        let rest ← readAfter true 0 behind cs
        pure (backslashes (count / 2) ++ rest)
      else
        let rest ← readAfter false 0 opened cs
        pure (backslashes (count / 2) ++ '[' :: rest)
    else do
      let rest ← readAfter false 0 opened cs
      pure (backslashes count ++ c :: rest)

/-- A text as it is shown without colours. -/
def read (text : String) : Except Refusal String :=
  (readAfter false 0 [] text.toList).map String.ofList

end Markup

end ErdDeploy
