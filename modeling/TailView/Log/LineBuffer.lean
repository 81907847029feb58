import TailView.Text.Split
import TailView.Text.Utf8

/-!
# Lines out of bytes

Log bytes arrive in chunks that can end anywhere, also inside a line or a character.  A line buffer
keeps the bytes after the last newline and hands out a line when its newline arrives.  One carriage
return before the newline belongs to the line end; the rest is decoded as UTF-8.  A chunk is read
byte by byte, so how the bytes are cut into chunks makes no difference.
-/

namespace TailView

/-- The bytes that still wait for their newline, the latest first. -/
structure LineBuffer where
  /-- The waiting bytes from the last to the first. -/
  reversed : List UInt8 := []
deriving DecidableEq

namespace LineBuffer

/-- The byte that ends a line. -/
def newline : UInt8 := 10

/-- The byte that may stand before the newline and then belongs to it. -/
def carriageReturn : UInt8 := 13

/-- The buffer in which nothing waits. -/
def empty : LineBuffer := {}

/-- The waiting bytes in the order of their arrival. -/
def pending (buffer : LineBuffer) : List UInt8 := buffer.reversed.reverse

/-- How many bytes wait. -/
def size (buffer : LineBuffer) : Nat := buffer.reversed.length

/-- The text of a line given by its bytes from the last to the first: one carriage return at the
end is left out. -/
def lineOfReversed : List UInt8 → String
  | [] => ""
  | last :: rest =>
      Text.Utf8.decodeString (if last = carriageReturn then rest.reverse else (last :: rest).reverse)

/-- One byte: a newline completes the waiting line, every other byte waits. -/
def push (buffer : LineBuffer) (byte : UInt8) : LineBuffer × Option String :=
  if byte = newline then (empty, some (lineOfReversed buffer.reversed))
  else (⟨byte :: buffer.reversed⟩, none)

/-- A chunk of bytes: the buffer after it and the lines that it completes, in order. -/
def feed (buffer : LineBuffer) : List UInt8 → LineBuffer × List String
  | [] => (buffer, [])
  | byte :: rest =>
      match buffer.push byte with
      | (next, some line) =>
          let (last, lines) := next.feed rest
          (last, line :: lines)
      | (next, none) => next.feed rest

/-- The waiting bytes as a line without newline, if there are any. -/
def flush (buffer : LineBuffer) : Option String :=
  if buffer.reversed.isEmpty then none else some (lineOfReversed buffer.reversed)

@[simp]
theorem feed_nil (buffer : LineBuffer) : buffer.feed [] = (buffer, []) := rfl

/-- Two chunks are read like their concatenation. -/
theorem feed_append (buffer : LineBuffer) (first second : List UInt8) :
    buffer.feed (first ++ second) =
      (((buffer.feed first).1.feed second).1,
        (buffer.feed first).2 ++ ((buffer.feed first).1.feed second).2) := by
  induction first generalizing buffer with
  | nil => simp
  | cons byte rest ih =>
      simp only [List.cons_append, feed]
      split <;> simp [ih]

end LineBuffer
end TailView
