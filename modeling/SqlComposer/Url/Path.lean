/-
  SqlComposer.Url.Path — the segments of a path.

  A segment of one dot is dropped and one of two dots takes away the segment before it,
  except a drive letter, which stays; as last segment either leaves an empty one. A dot
  may be written as `%2e` in any letter case.
-/

import SqlComposer.Text.Blank
import SqlComposer.Url.Percent

namespace SqlComposer.Url

namespace Path

/-- The segment with every encoded dot written as a dot. -/
def plainDots : List Char → List Char
  | '%' :: '2' :: 'e' :: rest | '%' :: '2' :: 'E' :: rest => '.' :: plainDots rest
  | c :: rest => c :: plainDots rest
  | [] => []

def isSingleDot (segment : List Char) : Bool := plainDots segment == ['.']

def isDoubleDot (segment : List Char) : Bool := plainDots segment == ['.', '.']

def isDriveLetter : List Char → Bool
  | [letter, mark] => letter.isAlpha && (mark == ':' || mark == '|')
  | _ => false

/-- The segments without the last one, unless that is a drive letter. -/
def shorten (segments : List (List Char)) : List (List Char) :=
  match segments.getLast? with
  | some last => if isDriveLetter last then segments else segments.dropLast
  | none => []

/-- Appends segments to those resolved already. -/
def resolve (done : List (List Char)) : List (List Char) → List (List Char)
  | [] => done
  | [last] =>
    if isDoubleDot last then shorten done ++ [[]]
    else if isSingleDot last then done ++ [[]]
    else done ++ [last]
  | segment :: rest =>
    if isDoubleDot segment then resolve (shorten done) rest
    else if isSingleDot segment then resolve done rest
    else resolve (done ++ [segment]) rest

/-- The path of the text behind its first slash, each segment behind a slash. -/
def read (isSlash : Char → Bool) (cs : List Char) : List Char :=
  let segments := (Chars.splitOn isSlash cs).map (Percent.encode Percent.inPath)
  (resolve [] segments).flatMap ('/' :: ·)

end Path

end SqlComposer.Url
