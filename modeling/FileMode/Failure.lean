import FileMode.Argument
import FileMode.Spec.Rejection
import FileMode.SystemError

namespace FileMode

def Rejection.messageFor (r : Rejection) (text : String) : String :=
  r.message ++ ": " ++ Quoted.quote text

inductive Failure
  | notText (given : Argument)
  | rejected (cause : Rejection) (text : String)
  | system (e : SystemError)

def Failure.message : Failure → String
  | notText given => "mode string must be str, not " ++ given.typeName
  | rejected cause text => cause.messageFor text
  | system e => e.message

end FileMode
