import Mathlib.Logic.Basic
import Unreferenced.CommandLine.World

/-!
# What an answer does to a world

An answer is carried out in order: its text is printed, whether its file can be written or
not, and after that the file is written (`World.run_carryOut`).  The program carries out
the answer to the file that it has read (`World.run_program`).
-/

namespace Unreferenced
namespace CommandLine
namespace World

/-- What comes after an effect is done only if the effect was possible. -/
theorem run_performAll_cons (w : World) (effect : Effect) (rest : List Effect) :
    (Effect.performAll perform (effect :: rest)).run w =
      if ((perform effect).run w).1 then
        (Effect.performAll perform rest).run ((perform effect).run w).2
      else (false, ((perform effect).run w).2) :=
  apply_ite (fun m : StateM World Bool => m.run ((perform effect).run w).2) _ _ _

/-- Nothing is done after the last effect, so it alone decides about success. -/
theorem run_performAll_singleton (w : World) (effect : Effect) :
    (Effect.performAll perform [effect]).run w = (perform effect).run w := by
  rw [run_performAll_cons]
  split
  · next possible => exact Prod.ext possible.symm rfl
  · next failed => exact Prod.ext (Bool.eq_false_iff.mpr failed).symm rfl

/-- The world after an answer has been carried out. -/
def after (w : World) (a : Answer) : World :=
  match a.save? with
  | some (path, text) => (w.print a.stdout).save path text
  | none => w.print a.stdout

/-- An answer prints its text, then writes its file if it has one, and ends with the status
that the files allow. -/
theorem run_carryOut (w : World) (a : Answer) :
    (a.carryOut perform).run w = (a.exitStatus w.writable, w.after a) := by
  have ends : (a.carryOut perform).run w =
      (if ((Effect.performAll perform a.effects).run w).1 then a.status else 1,
        ((Effect.performAll perform a.effects).run w).2) := rfl
  rw [ends, Answer.effects, Answer.exitStatus, after]
  cases a.save? with
  | none => rfl
  | some file =>
    have printed : (Effect.performAll perform [.print a.stdout, .save file.1 file.2]).run w =
        (Effect.performAll perform [.save file.1 file.2]).run (w.print a.stdout) := rfl
    rw [Option.map_some, Option.toList_some, printed, run_performAll_singleton]
    rfl

theorem stdout_after (w : World) (a : Answer) : (w.after a).stdout = w.stdout ++ a.stdout := by
  rw [after]
  cases a.save? <;> rfl

/-- A file that is not the one to write is left alone. -/
theorem files_after_of_ne {w : World} {a : Answer} {path : String}
    (other : a.save?.map (·.1) ≠ some path) : (w.after a).files path = w.files path := by
  rw [after]
  cases saved : a.save? with
  | none => rfl
  | some file =>
    rw [saved] at other
    exact if_neg fun same => other (congrArg some same.symm)

/-- A file that can be written holds the text. -/
theorem files_after {w : World} {a : Answer} {path text : String}
    (saved : a.save? = some (path, text)) (writable : w.writable path = true) :
    (w.after a).files path = some text.toUTF8 := by
  rw [after, saved]
  show (if path = path then if w.writable path then _ else _ else _) = _
  rw [if_pos rfl, if_pos writable]

/-- The program carries out the answer to the file that it has read. -/
theorem run_program {args : List String} {check : Check}
    (asked : Request.ofArguments args = .unused check) (w : World) :
    (program surroundings args).run w = ((check.answer
      ((check.report? 1 (w.files check.corpus)).map
        (·.lasting (Duration.ofNanos w.elapsed)))).carryOut perform).run w := by
  simp only [program, asked, Request.corpus?, Request.report?, Request.answer]
  -- what the report is plays no part here, and is not to be computed
  generalize Check.report? = report?
  rfl

end World
end CommandLine
end Unreferenced
