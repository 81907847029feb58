import TailView.Proofs.Number.Numeral
import TailView.Proofs.RequestPattern

/-!
# What counts as a request or an answer

The leftmost place of a line that has the shape of a request or an answer decides, even if its
number is not written in ASCII or does not fit.
-/

namespace TailView
namespace Request

open Number Text

variable {digits word line : List Char}

/-! ## Numbers -/

/-- Digits in ASCII whose number fits into 64 bits. -/
def Fits (digits : List Char) : Prop :=
  (∀ c ∈ digits, c.isDigit = true) ∧ natOfDigits digits < 2 ^ 64

/-- A run of decimal digits has no sign, so it is read as it stands. -/
theorem readBelow?_eq_some_iff (limit : Nat) {n : Nat} (isRun : IsRun isDecimalDigit digits) :
    readBelow? limit digits = some n ↔
      (∀ c ∈ digits, c.isDigit = true) ∧ natOfDigits digits < limit ∧ natOfDigits digits = n := by
  have unsigned : readBelow? limit digits =
      (readDigits digits).bind fun n => if n < limit then some n else none := by
    rw [readBelow?]
    · rfl
    · rintro rest rfl
      exact absurd (isRun.2 '+' List.mem_cons_self) (by decide)
  have nonempty : digits.isEmpty = false := List.isEmpty_eq_false_iff.mpr isRun.1
  rw [unsigned, readDigits, nonempty, Option.bind_eq_some_iff]
  simp only [Bool.not_false, Bool.true_and, Option.ite_none_right_eq_some, List.all_eq_true,
    Option.some.injEq]
  constructor
  · rintro ⟨_, ⟨allDigits, rfl⟩, below, same⟩
    exact ⟨allDigits, below, same⟩
  · rintro ⟨allDigits, below, same⟩
    exact ⟨_, ⟨allDigits, rfl⟩, below, same⟩

/-- Three digits in ASCII are a number below a thousand. -/
theorem readBelow?_status_eq_some_iff {status : List Char} {n : Nat} (isStatus : IsStatus status) :
    readBelow? UInt16.size status = some n ↔
      (∀ c ∈ status, c.isDigit = true) ∧ natOfDigits status = n := by
  have nonempty : status ≠ [] := List.ne_nil_of_length_pos (by rw [isStatus.1]; decide)
  rw [readBelow?_eq_some_iff _ ⟨nonempty, isStatus.2⟩]
  refine and_congr_right fun allDigits => and_iff_right ?_
  have small := natOfDigits_lt allDigits
  rw [isStatus.1] at small
  exact Nat.lt_trans small (by decide)

theorem Leftmost.of_starts
    {α : Type}
    {Starts : α → List Char → Prop}
    {found : α}
    (leftmost : Leftmost Starts line found) :
    ∃ text, Starts found text := by
  obtain ⟨before, after, -, starts, -⟩ := leftmost
  exact ⟨after, starts⟩

theorem start?_eq_some_iff {start : Start} :
    start? line = some start ↔
      '\n' ∉ line ∧ ∃ digits method, Leftmost StartsRequest line (digits, method) ∧ Fits digits ∧
        start = ⟨natOfDigits digits, String.ofList method⟩ := by
  let compiled : Pattern.Compiled := ⟨requestShape.expr, .ofExpr requestShape.expr⟩
  have same : compiled.expr = requestShape.expr := rfl
  simp only [start?, startCompiled_eq, Except.toOption, Option.bind_eq_bind, Option.bind_some,
    Option.bind_eq_some_iff, Option.pure_def, Option.some.injEq]
  constructor
  · rintro ⟨captures, isCaptures, digits, isId, id, isNumber, method, isMethod, rfl⟩
    obtain ⟨clean, leftmost⟩ := (requestShape.exists_captures?_iff same line digits method).mp
      ⟨captures, isCaptures, isId, isMethod⟩
    obtain ⟨_, isRun, -⟩ := leftmost.of_starts
    obtain ⟨allDigits, fits, rfl⟩ := (readBelow?_eq_some_iff _ isRun).mp isNumber
    exact ⟨clean, digits, method, leftmost, ⟨allDigits, fits⟩, rfl⟩
  · rintro ⟨clean, digits, method, leftmost, ⟨allDigits, fits⟩, rfl⟩
    obtain ⟨captures, isCaptures, isId, isMethod⟩ :=
      (requestShape.exists_captures?_iff same line digits method).mpr ⟨clean, leftmost⟩
    obtain ⟨_, isRun, -⟩ := leftmost.of_starts
    have isNumber := (readBelow?_eq_some_iff _ isRun).mpr ⟨allDigits, fits, rfl⟩
    exact ⟨captures, isCaptures, digits, isId, _, isNumber, method, isMethod, rfl⟩

theorem end?_eq_some_iff {finish : End} : end? line = some finish ↔
      '\n' ∉ line ∧ ∃ digits status, Leftmost StartsAnswer line (digits, status) ∧ Fits digits ∧
        (∀ c ∈ status, c.isDigit = true) ∧ finish = ⟨natOfDigits digits, natOfDigits status⟩ := by
  let compiled : Pattern.Compiled := ⟨answerShape.expr, .ofExpr answerShape.expr⟩
  have same : compiled.expr = answerShape.expr := rfl
  simp only [end?, endCompiled_eq, Except.toOption, Option.bind_eq_bind, Option.bind_some,
    Option.bind_eq_some_iff, Option.pure_def, Option.some.injEq]
  constructor
  · rintro ⟨captures, isCaptures, digits, isId, id, isNumber, status, isKind, _, isThree, rfl⟩
    obtain ⟨clean, leftmost⟩ := (answerShape.exists_captures?_iff same line digits status).mp
      ⟨captures, isCaptures, isId, isKind⟩
    obtain ⟨_, isRun, isStatus, -⟩ := leftmost.of_starts
    obtain ⟨allDigits, fits, rfl⟩ := (readBelow?_eq_some_iff _ isRun).mp isNumber
    obtain ⟨allStatus, rfl⟩ := (readBelow?_status_eq_some_iff isStatus).mp isThree
    exact ⟨clean, digits, status, leftmost, ⟨allDigits, fits⟩, allStatus, rfl⟩
  · rintro ⟨clean, digits, status, leftmost, ⟨allDigits, fits⟩, allStatus, rfl⟩
    obtain ⟨captures, isCaptures, isId, isKind⟩ :=
      (answerShape.exists_captures?_iff same line digits status).mpr ⟨clean, leftmost⟩
    obtain ⟨_, isRun, isStatus, -⟩ := leftmost.of_starts
    have isNumber := (readBelow?_eq_some_iff _ isRun).mpr ⟨allDigits, fits, rfl⟩
    have isThree := (readBelow?_status_eq_some_iff isStatus).mpr ⟨allStatus, rfl⟩
    exact ⟨captures, isCaptures, digits, isId, _, isNumber, status, isKind, _, isThree, rfl⟩

/-- A line is read as a request or an answer exactly if it has no newline and the leftmost place
where it goes on like one has numbers that are written in ASCII and fit.  It goes on so somewhere
exactly if the pattern matches it, and the groups of the pattern hold what the leftmost place has.
Where that place has other numbers nothing is found, even if a later place would do. -/
theorem start?_and_end?_eq_some_iff (line : String) :
    (∀ start, start? line.toList = some start ↔
      '\n' ∉ line.toList ∧ ∃ digits method,
        Leftmost StartsRequest line.toList (digits, method) ∧ Fits digits ∧
          start = ⟨natOfDigits digits, String.ofList method⟩) ∧
    (∀ finish, end? line.toList = some finish ↔
      '\n' ∉ line.toList ∧ ∃ digits status,
        Leftmost StartsAnswer line.toList (digits, status) ∧ Fits digits ∧
          (∀ c ∈ status, c.isDigit = true) ∧
          finish = ⟨natOfDigits digits, natOfDigits status⟩) ∧
    (∀ digits method, Leftmost StartsRequest line.toList (digits, method) → ¬Fits digits →
      start? line.toList = none) ∧
    (∀ digits status, Leftmost StartsAnswer line.toList (digits, status) →
      ¬(Fits digits ∧ ∀ c ∈ status, c.isDigit = true) → end? line.toList = none) ∧
    (∃ compiled, Pattern.Compiled.ofPattern false startPattern = .ok compiled ∧
      (compiled.isMatch line = true ↔
        '\n' ∉ line.toList ∧ ∃ found, Leftmost StartsRequest line.toList found) ∧
      ∀ digits method,
        (∃ captures, compiled.captures? line.toList = some captures ∧
          captures.text? "id" = some digits ∧ captures.text? "method" = some method) ↔
        '\n' ∉ line.toList ∧ Leftmost StartsRequest line.toList (digits, method)) ∧
    ∃ compiled, Pattern.Compiled.ofPattern false endPattern = .ok compiled ∧
      (compiled.isMatch line = true ↔
        '\n' ∉ line.toList ∧ ∃ found, Leftmost StartsAnswer line.toList found) ∧
      ∀ digits status,
        (∃ captures, compiled.captures? line.toList = some captures ∧
          captures.text? "id" = some digits ∧ captures.text? "status" = some status) ↔
        '\n' ∉ line.toList ∧ Leftmost StartsAnswer line.toList (digits, status) := by
  refine ⟨fun _ => start?_eq_some_iff, fun _ => end?_eq_some_iff, ?_, ?_, ?_, ?_⟩
  · intro digits method leftmost misfit
    rw [Option.eq_none_iff_forall_ne_some]
    intro start found
    have parts := start?_eq_some_iff.mp found
    obtain ⟨clean, otherDigits, otherMethod, leftmostOther, fits, -⟩ := parts
    cases requestShape.leftmost_unique clean leftmost leftmostOther
    exact misfit fits
  · intro digits status leftmost misfit
    rw [Option.eq_none_iff_forall_ne_some]
    intro finish found
    have parts := end?_eq_some_iff.mp found
    obtain ⟨clean, otherDigits, otherStatus, leftmostOther, fits, allStatus, -⟩ := parts
    cases answerShape.leftmost_unique clean leftmost leftmostOther
    exact misfit ⟨fits, allStatus⟩
  · have isCompiled := Pattern.Tree.ofExpr_eq small_requestShape
    exact ⟨_, startCompiled_eq, requestShape.isMatch_iff isCompiled line,
      requestShape.exists_captures?_iff rfl line.toList⟩
  · have isCompiled := Pattern.Tree.ofExpr_eq small_answerShape
    exact ⟨_, endCompiled_eq, answerShape.isMatch_iff isCompiled line,
      answerShape.exists_captures?_iff rfl line.toList⟩

/-- A number beyond 64 bits hides the request behind it. -/
theorem start?_and_end?_eq_some_iff_overflow :
    let line := "[18446744073709551616] -> GET /a [7] -> GET /b"
    let digits := "18446744073709551616".toList
    Leftmost StartsRequest line.toList (digits, "GET".toList) ∧ ¬Fits digits ∧
      start? line.toList = none := by
  intro line digits
  have isRun : IsRun isDecimalDigit digits :=
    ⟨List.cons_ne_nil _ _, List.all_eq_true.mp (by decide +kernel)⟩
  have isMethod : IsMethod "GET".toList :=
    ⟨List.cons_ne_nil _ _, List.all_eq_true.mp (by decide +kernel)⟩
  have leftmost : Leftmost StartsRequest line.toList (digits, "GET".toList) :=
    ⟨[], _, rfl, ⟨isRun, isMethod, "/a [7] -> GET /b".toList, by decide⟩,
      fun _ _ _ shorter => absurd shorter (Nat.not_lt_zero _)⟩
  have misfit : ¬Fits digits := fun fits => absurd fits.2 (by decide +kernel)
  obtain ⟨-, -, nothing, -⟩ := start?_and_end?_eq_some_iff line
  exact ⟨leftmost, misfit, nothing digits _ leftmost misfit⟩

end Request
end TailView
