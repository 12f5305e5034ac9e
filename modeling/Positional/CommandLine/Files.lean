import Positional.Text.Quoted
import Positional.Text.Utf8
import Positional.Fault

/-!
# Template files

The path of a template file in its plain form, the ways in which a file cannot be read, and the
text of a file.
-/

namespace Positional.CommandLine

inductive FileFault where
  | missing
  /-- an error of the system, with its number and its text -/
  | system (number : Nat) (reason : String)
deriving DecidableEq

namespace FileFault

def isDirectory : FileFault := system 21 "Is a directory"

def notDirectory : FileFault := system 20 "Not a directory"

def nameTooLong : FileFault := system 36 "File name too long"

def number? : FileFault → Option Nat
  | missing => none
  | system number _ => some number

end FileFault

namespace Path

/-- The names in a path; empty names and single dots say nothing. -/
def names (path : String) : List String :=
  (path.splitOn "/").filter fun name => name ≠ "" && name ≠ "."

/-- The slashes that a path starts with in its plain form: two are kept, more are one. -/
def root (path : String) : String :=
  let slashes := (path.toList.takeWhile (· = '/')).length
  if slashes = 0 then "" else if slashes = 2 then "//" else "/"

/-- A path without what says nothing: `./a//b/` is `a/b`, and the empty path is `.`. -/
def plain (path : String) : String :=
  let written := root path ++ String.intercalate "/" (names path)
  if written = "" then "." else written

end Path

/-- The text of a file: UTF-8, with every line break turned into a line feed. -/
def unifyBreaks : List Char → List Char
  | '\r' :: '\n' :: rest => '\n' :: unifyBreaks rest
  | '\r' :: rest => '\n' :: unifyBreaks rest
  | c :: rest => c :: unifyBreaks rest
  | [] => []

def fileText (bytes : List UInt8) : Except Fault String :=
  match Text.Utf8.decode bytes with
  | .ok text => .ok (String.ofList (unifyBreaks text))
  | .error fault => .error (.encoding fault)

end Positional.CommandLine
