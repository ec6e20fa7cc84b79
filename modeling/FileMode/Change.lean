import FileMode.Failure
import FileMode.Spec.Basic

namespace FileMode

namespace Mode

def changeBy (o : Options) (spec : Argument) (m : Mode) : Except Failure Mode :=
  match spec with
  | .text s => (m.change o s).mapError (.rejected · s)
  | given => .error (.notText given)

def attempt (o : Options) (spec : Argument) (m : Mode) : Except Failure (Except Rejection Mode) :=
  match m.changeBy o spec with
  | .ok m' => .ok (.ok m')
  | .error (.rejected cause _) => .ok (.error cause)
  | .error e => .error e

def after (m : Mode) (result : Except Failure Mode) : Mode :=
  match result with
  | .ok m' => m'
  | .error _ => m

def trace (m : Mode) : List (Options × Argument) → List (Except Failure Mode × Mode)
  | [] => []
  | (o, spec) :: steps =>
    let result := m.changeBy o spec
    (result, m.after result) :: (m.after result).trace steps

end Mode

namespace Call

def nonEmptyText (call : Call) (spec : Argument) : Except SystemError String :=
  let refused : SystemError :=
    .invalid call ("mode must be a non-empty string, got " ++ spec.spelled)
  match spec with
  | .text s => if s.isEmpty then .error refused else .ok s
  | _ => .error refused

def change (call : Call) (o : Options) (text : String) (m : Mode) : Except SystemError Mode :=
  (m.change o text).mapError fun cause => .invalid call (cause.messageFor text)

def changeBy (call : Call) (o : Options) (spec : Argument) (m : Mode) : Except Failure Mode :=
  match spec with
  | .text s => (call.change o s m).mapError .system
  | given => .error (.notText given)

def guardedChange (call : Call) (o : Options) (spec : Argument) (m : Mode) :
    Except SystemError (String × Mode) := do
  let text ← call.nonEmptyText spec
  return (text, ← call.change o text m)

end Call

end FileMode
