/-
The option to keep going, on the command line.

The option only changes one field of the arguments: put in front of other arguments, it is read
as such and leaves the reading of the others as it is (`read_cons_keepGoing`).  Consumption is
followed step by step; each step commutes with setting the field (`consume_going`).
-/
import BorrowGraph.CommandLine.Arguments
import Mathlib.Tactic.Common

namespace BorrowGraph.CommandLine

/-- The arguments, with the option to keep going. -/
def Arguments.going (a : Arguments) : Arguments :=
  { a with keepGoing := true }

namespace Progress

/-- What has been consumed, with the option to keep going. -/
def going (p : Progress) : Progress :=
  { p with arguments := p.arguments.going }

theorem addWord_going (p : Progress) (text : String) :
    p.going.addWord text = (p.addWord text).going := by
  obtain ⟨arguments, words, closed, others⟩ := p
  cases closed <;> rfl

theorem store_going (p : Progress) (flag : Flag) (v : Given) :
    p.going.store flag v = (p.store flag v).going := by
  cases flag <;> rfl

theorem switch_going (p : Progress) (flag : Flag) :
    p.going.switch flag = (p.switch flag).map going := by
  cases flag <;> rfl

theorem switchAll_going (p : Progress) (flags : List Flag) :
    p.going.switchAll flags = (p.switchAll flags).map going := by
  induction flags generalizing p with
  | nil => rfl
  | cons flag flags ih =>
    rw [switchAll, switchAll, switch_going]
    rcases p.switch flag with e | q
    · rfl
    · exact ih q

theorem finish_going (p : Progress) : p.going.finish = p.finish.map Arguments.going := by
  obtain ⟨arguments, words, closed, others⟩ := p
  cases others <;> rfl

end Progress

/-- Consuming an option to which no value is attached. -/
theorem consume_option (p : Progress) (flag : Flag) (short : Bool) (rest : List Token) :
    consume p (.option flag short none :: rest) =
      if flag.takesValue then
        match rest with
        | .word text :: rest => consume (p.close.store flag (.text text)) rest
        | _ => .error (.usage (.missingValue flag))
      else p.close.switch flag >>= fun q => consume q rest :=
  (consume.eq_def p _).trans rfl

/-- Setting the option first does not change how arguments are consumed. -/
theorem consume_going (p : Progress) (tokens : List Token) :
    consume p.going tokens = (consume p tokens).map Arguments.going := by
  fun_induction consume p tokens with
  | case1 p => exact p.finish_going
  | case2 p rest ih => rw [consume, Progress.addWord_going, ih]
  | case3 p text rest ih => rw [consume, Progress.addWord_going, ih]
  | case4 p text rest ih =>
    rw [consume]
    exact ih
  | case5 p flag short value rest hvalue ih =>
    rw [consume, if_pos hvalue, ← ih, ← Progress.store_going]
    rfl
  | case6 p flag short value rest hvalue ih =>
    rw [consume, if_neg hvalue]
    rcases (cluster flag short value.toList).mapError Stop.usage with e | flags
    · rfl
    · show (p.close.going.switchAll flags >>= fun q => consume q rest) =
        (p.close.switchAll flags >>= fun q => consume q rest).map Arguments.going
      rw [Progress.switchAll_going]
      rcases p.close.switchAll flags with e | q
      · rfl
      · exact ih q
  | case7 p flag short hvalue text rest ih =>
    rw [consume, if_pos hvalue, ← ih, ← Progress.store_going]
    rfl
  | case8 p flag short rest hvalue hword =>
    rw [consume_option, if_pos hvalue]
    rcases rest with _ | ⟨_ | text | _ | _, rest⟩
    · rfl
    · rfl
    · exact (hword text rest rfl).elim
    · rfl
    · rfl
  | case9 p flag short rest hvalue ih =>
    rw [consume_option, if_neg hvalue]
    show (p.close.going.switch flag >>= fun q => consume q rest) = _
    rw [Progress.switch_going]
    rcases p.close.switch flag with e | q
    · rfl
    · exact ih q

/-- The option in front of other arguments only sets its field. -/
theorem read_cons_keepGoing (arguments : List String) :
    Arguments.read ("--keep-going" :: arguments) =
      (Arguments.read arguments).map Arguments.going := by
  have hclassify : classify "--keep-going" = .ok (.option .keepGoing false none) := by decide
  have htokens : tokens ("--keep-going" :: arguments) =
      (tokens arguments).map fun ts => .option .keepGoing false none :: ts := by
    rw [tokens, if_neg (by decide), hclassify]
    rcases tokens arguments with e | ts
    · rfl
    · rfl
  rw [Arguments.read, Arguments.read, htokens]
  rcases tokens arguments with e | ts
  · rfl
  · have hfirst : consume {} (.option .keepGoing false none :: ts) =
        consume (Progress.going {}) ts := consume_option _ _ _ _
    exact hfirst.trans (consume_going {} ts)

end BorrowGraph.CommandLine
