import TaskScheduler.Text.Numeral
import TaskScheduler.Text.Quoted

/-
  Captured panics: what a task body or a thread factory threw, and the message it is shown by.
-/
namespace TaskScheduler

/-- What a panic carries. -/
inductive Payload where
  | literal (text : String)
  | owned (text : String)
  | code (value : Int)
deriving DecidableEq, Repr, Inhabited

/-- The payload in words. -/
def Payload.text : Payload → String
  | literal t => t
  | owned t => t
  | code value => "code " ++ Text.Numeral.ofInt value

/-- A panic that was caught, with its payload kept. -/
structure Failure where
  payload : Payload
deriving DecidableEq, Repr, Inhabited

namespace Failure

/-- Raises the panic again and catches it. -/
def resume (f : Failure) : Failure := { payload := f.payload }

/-- The text of the payload, or a fixed phrase for one that is not a text. -/
def message (f : Failure) : String :=
  match f.payload with
  | .literal t => t
  | .owned t => t
  | .code _ => "non-string panic payload"

/-- The failure in words. -/
def text (f : Failure) : String := "panicked: " ++ f.message

/-- The failure as a value is shown to a programmer. -/
def debugText (f : Failure) : String :=
  "TaskFailure \x7b message: " ++ Text.quoted f.message ++ ", .. \x7d"

end Failure

end TaskScheduler
