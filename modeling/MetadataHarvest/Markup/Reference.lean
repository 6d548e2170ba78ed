import MetadataHarvest.Number.Digits
import MetadataHarvest.Text.Scan

/-!
# Character references

In text and in attribute values an ampersand begins a reference: one of the five
predefined names, or the number of a character in decimal or, after a small x, in
hexadecimal. Anything else after an ampersand makes the text unreadable.
-/

namespace MetadataHarvest.Markup

open MetadataHarvest.Number MetadataHarvest.Text

namespace Reference

/-- The predefined names. -/
def named? (name : String) : Option Char :=
  if name = "amp" then some '&'
  else if name = "lt" then some '<'
  else if name = "gt" then some '>'
  else if name = "quot" then some '"'
  else if name = "apos" then some '\''
  else none

/-- The number that at most `most` digits denote. -/
def number? (base most : Nat) (cs : List Char) : Option Nat :=
  if most < cs.length then none else ofBase? base cs

/-- The character with this number; the number 0 has none. -/
def scalar? (n : Nat) : Option Char :=
  if n = 0 then none
  else if h : n.isValidChar then some (Char.ofNatAux n h)
  else none

/-- The character that the text between an ampersand and a semicolon stands for. -/
def char? : List Char → Option Char
  | '#' :: 'x' :: digits => (number? 16 6 digits).bind scalar?
  | '#' :: digits => (number? 10 7 digits).bind scalar?
  | name => named? (String.ofList name)

end Reference

/-- A text with its references replaced by the characters they stand for. -/
def unescape? (cs : List Char) : Option (List Char) :=
  match cs with
  | [] => some []
  | c :: rest =>
    if c = '&' then
      let name := rest.takeWhile fun d => d ≠ '&' && d ≠ ';'
      match _h : rest.dropWhile fun d => d ≠ '&' && d ≠ ';' with
      | ';' :: after => do
        let d ← Reference.char? name
        let ds ← unescape? after
        return d :: ds
      | _ => none
    else (unescape? rest).map (c :: ·)
termination_by cs.length
decreasing_by
  · have := length_dropWhile_le (fun d => d ≠ '&' && d ≠ ';') rest
    rw [_h] at this
    simp only [List.length_cons] at *
    omega
  · simp

@[simp] theorem unescape?_nil : unescape? [] = some [] := by
  rw [unescape?]

/-- The five predefined names for the characters that need them, and other characters as
they are. -/
def escapeChar (c : Char) : List Char :=
  if c = '&' then "&amp;".toList
  else if c = '<' then "&lt;".toList
  else if c = '>' then "&gt;".toList
  else if c = '"' then "&quot;".toList
  else if c = '\'' then "&apos;".toList
  else [c]

/-- A text as it is written in markup. -/
def escape (cs : List Char) : List Char := cs.flatMap escapeChar

@[simp] theorem escape_nil : escape [] = [] := rfl

@[simp] theorem escape_cons (c : Char) (cs : List Char) :
    escape (c :: cs) = escapeChar c ++ escape cs := rfl

end MetadataHarvest.Markup
