import RemoteSigner.Text.Printable
import RemoteSigner.Text.Utf8

/-!
# Quoted text

Messages quote the text that they complain about, so that blanks at its ends and invisible
characters can be seen. A quote, a backslash and the usual blanks have short escapes; every other
character without a visible form is written by its number.  So is an octet of a path that belongs to
no character.

## Main definitions

* `quote`: a text between quotes
* `quotePath`: a path between quotes
-/

namespace RemoteSigner.Text

/-- The lower-case hexadecimal digits of a number. -/
def hexadecimal (n : Nat) : String := String.ofList (Nat.toDigits 16 n)

/-- The form of one character between quotes. -/
def quoteChar (c : Char) : String :=
  match c with
  | '\x00' => "\\0"
  | '\t' => "\\t"
  | '\n' => "\\n"
  | '\r' => "\\r"
  | '"' => "\\\""
  | '\\' => "\\\\"
  | c => if isVisible c then c.toString else "\\u\x7b" ++ hexadecimal c.toNat ++ "\x7d"

/-- The text between quotes, with everything escaped that could not be read. -/
def quote (s : String) : String := "\"" ++ String.join (s.toList.map quoteChar) ++ "\""

/-- The form between quotes of an octet that belongs to no character. -/
def quoteOctet (b : UInt8) : String :=
  "\\x" ++ (if b < 0x10 then "0" else "") ++ (hexadecimal b.toNat).toUpper

/-- The forms of the characters of the octets, and of octets that belong to none. -/
def quoteEach : Bytes → String
  | [] => ""
  | b :: rest =>
    match (Utf8.first b rest).1 with
    | some c => quoteChar c ++ quoteEach (Utf8.first b rest).2
    | none =>
      let broken := (b :: rest).take (rest.length + 1 - (Utf8.first b rest).2.length)
      String.join (broken.map quoteOctet) ++ quoteEach (Utf8.first b rest).2
termination_by bytes => bytes.length
decreasing_by all_goals exact Nat.lt_succ_of_le (Utf8.length_first_le b rest)

/-- A path between quotes. -/
def quotePath (path : Bytes) : String := "\"" ++ quoteEach path ++ "\""

/-- Numbers in brackets, separated by commas: the form in which messages show raw octets. -/
def listed (numbers : List Nat) : String := "[" ++ ", ".intercalate (numbers.map Nat.repr) ++ "]"

end RemoteSigner.Text
