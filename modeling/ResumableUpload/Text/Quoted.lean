import ResumableUpload.Text.Extending
import ResumableUpload.Text.Unshown
/-!
# Quoted text

Texts are shown to people between double quotes.  Quotes and backslashes are
preceded by a backslash, and characters without a visible shape are written by
name or by number, so that the text can be told from what surrounds it.
-/

namespace ResumableUpload.Quoted

/-- The lower-case hexadecimal form of a number. -/
def hexadecimal (value : Nat) : List Char :=
  Nat.toDigits 16 value

/--
Whether a character is written by number: it is drawn on the character before
it, or not shown at all.
-/
def isHidden (c : Char) : Bool :=
  CharClass.extending.has c || CharClass.unshown.has c

/-- How one character stands between the quotes. -/
def escape (c : Char) : List Char :=
  match c with
  | '"' => ['\\', '"']
  | '\\' => ['\\', '\\']
  | '\n' => ['\\', 'n']
  | '\r' => ['\\', 'r']
  | '\t' => ['\\', 't']
  | '\x00' => ['\\', '0']
  | _ =>
      if isHidden c then
        ['\\', 'u', '\x7b'] ++ hexadecimal c.toNat ++ ['\x7d']
      else [c]

def quote (text : String) : String :=
  String.ofList ('"' :: text.toList.flatMap escape ++ ['"'])

end ResumableUpload.Quoted
