import BrowserFlow.Value.Order

/-!
# Making errors

Errors of a few classes ask something of the arguments they are made with, and making one from
anything else raises another error instead. An error of the operating system that is made with a
number and a reason is of the class that belongs to the number. A group of errors in which every
member is an ordinary error is an ordinary error itself.
-/
namespace BrowserFlow

/-- The classes of the numbers that have one. -/
def systemClasses : List (Int × String) :=
  [(1, "PermissionError"), (2, "FileNotFoundError"), (3, "ProcessLookupError"),
    (4, "InterruptedError"), (10, "ChildProcessError"), (11, "BlockingIOError"),
    (13, "PermissionError"), (17, "FileExistsError"), (20, "NotADirectoryError"),
    (21, "IsADirectoryError"), (32, "BrokenPipeError"), (103, "ConnectionAbortedError"),
    (104, "ConnectionResetError"), (108, "BrokenPipeError"), (110, "TimeoutError"),
    (111, "ConnectionRefusedError"), (114, "BlockingIOError"), (115, "BlockingIOError")]

/-- The class of a number, which has to be a whole one. -/
def systemClass? (number : Value) : Option String := do
  systemClasses.lookup (← (← number.number?).whole?)

/-- Classes of errors that are not ordinary: they are not caught where ordinary errors are. -/
def severeClasses : List String :=
  ["BaseException", "KeyboardInterrupt", "SystemExit", "GeneratorExit", "BaseExceptionGroup"]

def isOrdinary : Value → Bool
  | .raised (.foreign name) _ _ => !severeClasses.contains name
  | .raised .. => true
  | _ => false

namespace Making

/-! ### What classes ask of their arguments -/

def checkText (place : Nat) (v : Value) : Except Raised Unit :=
  match v with
  | .str _ => .ok ()
  | v =>
    let type := if v.isNone then "None" else v.fullTypeName
    .error (.typeError ("argument " ++ toString place ++ " must be str, not " ++ type))

/-- The numbers that count places in memory. -/
def isMachineSized (n : Int) : Bool :=
  -(Int.ofNat (Nat.pow 2 63)) ≤ n && n < Int.ofNat (Nat.pow 2 63)

/-- Refuses what is no whole number; `tooLarge` is the error of one that counts no place. -/
def checkWhole (tooLarge : Raised) (v : Value) : Except Raised Unit :=
  match v.number?.bind Number.whole? with
  | some n => if isMachineSized n then .ok () else .error tooLarge
  | none =>
    .error (.typeError ("'" ++ v.fullTypeName ++ "' object cannot be interpreted as an integer"))

def checkPlace : Value → Except Raised Unit :=
  checkWhole (.ofText (.foreign "OverflowError") "Python int too large to convert to C ssize_t")

def checkBytes : Value → Except Raised Unit
  | .bytes _ => .ok ()
  | v => .error (.typeError ("a bytes-like object is required, not '" ++ v.fullTypeName ++ "'"))

def wrongCount (quantity : String) (count : Nat) : Raised :=
  .typeError ("function takes " ++ quantity ++ " arguments (" ++ toString count ++ " given)")

def checkDecoding : List Value → Except Raised Unit
  | [encoding, object, first, last, reason] => do
    checkText 1 encoding
    checkPlace first
    checkPlace last
    checkText 5 reason
    checkBytes object
  | args => .error (wrongCount "exactly 5" args.length)

def checkEncoding : List Value → Except Raised Unit
  | [encoding, object, first, last, reason] => do
    checkText 1 encoding
    checkText 2 object
    checkPlace first
    checkPlace last
    checkText 5 reason
  | args => .error (wrongCount "exactly 5" args.length)

def checkMapping : List Value → Except Raised Unit
  | [object, first, last, reason] => do
    checkText 1 object
    checkPlace first
    checkPlace last
    checkText 4 reason
  | args => .error (wrongCount "exactly 4" args.length)

/-- How many parts a value can be gone through in, if it can. -/
def partCount? : Value → Option Nat
  | .str s => some s.length
  | .bytes bs => some bs.length
  | .list vs | .tuple vs => some vs.length
  | .dict entries => some entries.length
  | _ => none

/-- The details of an error of syntax are four parts, or six. -/
def checkSyntax : List Value → Except Raised Unit
  | [_, details] =>
    match partCount? details with
    | none => .error (.typeError ("'" ++ details.fullTypeName ++ "' object is not iterable"))
    | some n =>
      if n < 4 then .error (wrongCount "at least 4" n)
      else if n = 5 then
        .error (.typeError "end_offset must be provided when end_lineno is provided")
      else if 6 < n then .error (wrongCount "at most 6" n)
      else .ok ()
  | _ => .ok ()

/-- The members of a sequence; of a text or of bytes, none is an error. -/
def members? : Value → Option (List Value)
  | .list vs | .tuple vs => some vs
  | .str s => some (s.toList.map fun c => .str (String.singleton c))
  | .bytes bs => some (bs.map fun b => .int b.toNat)
  | _ => none

def isError : Value → Bool
  | .raised .. => true
  | _ => false

/-- A group has a text and a sequence of errors, at least one; an ordinary group has ordinary errors
only. -/
def checkGroup (isOrdinaryGroup : Bool) : List Value → Except Raised Unit
  | [message, errors] => do
    match message with
    | .str _ => pure ()
    | v =>
      let type := if v.isNone then "None" else v.fullTypeName
      throw (.typeError ("BaseExceptionGroup.__new__() argument 1 must be str, not " ++ type))
    match members? errors with
    | none => throw (.typeError "second argument (exceptions) must be a sequence")
    | some [] => throw (.valueError "second argument (exceptions) must be a non-empty sequence")
    | some vs =>
      match vs.findIdx? (!isError ·) with
      | some i =>
        throw (.valueError
          ("Item " ++ toString i ++ " of second argument (exceptions) is not an exception"))
      | none =>
        if isOrdinaryGroup && !vs.all isOrdinary then
          throw (.typeError "Cannot nest BaseExceptions in an ExceptionGroup")
  | args => .error (.typeError
      ("BaseExceptionGroup.__new__() takes exactly 2 arguments (" ++
        toString args.length ++ " given)"))

/-- An error of blocking takes a number in the place of a file for a count. -/
def checkBlocking : List Value → Except Raised Unit
  | _ :: _ :: count :: more =>
    if 2 < more.length || count.number?.isNone then .ok ()
    else checkWhole (.valueError "cannot fit 'int' into an index-sized integer") count
  | _ => .ok ()

def check (cls : ErrorClass) (args : List Value) : Except Raised Unit :=
  match cls with
  | .foreign "UnicodeDecodeError" => checkDecoding args
  | .foreign "UnicodeEncodeError" => checkEncoding args
  | .foreign "UnicodeTranslateError" => checkMapping args
  | .foreign "SyntaxError" | .foreign "IndentationError" | .foreign "TabError" => checkSyntax args
  | .foreign "ExceptionGroup" => checkGroup true args
  | .foreign "BaseExceptionGroup" => checkGroup false args
  | .foreign "BlockingIOError" => checkBlocking args
  | _ => .ok ()

/-- The class that an error of this class is of once it is made with arguments. -/
def refined (cls : ErrorClass) (args : List Value) : ErrorClass :=
  match cls, args with
  | .foreign "OSError", number :: _ :: more =>
    if more.length ≤ 3 then ((systemClass? number).map .foreign).getD cls else cls
  | .foreign "BaseExceptionGroup", [_, errors] =>
    if ((members? errors).getD []).all isOrdinary then .foreign "ExceptionGroup" else cls
  | cls, _ => cls

end Making

namespace Raised

/-- Makes an error of a class that is named. -/
def make (name : String) (args : List Value) (step : Option String := none) :
    Except Raised Raised := do
  let cls := Making.refined (ErrorClass.ofName name) args
  Making.check cls args
  return { cls, args, step }

def isOrdinary (e : Raised) : Bool := BrowserFlow.isOrdinary e.toValue

/-- An error that ends an iteration cannot leave a routine that is waited for: it becomes an error
of its own. -/
def leaving (e : Raised) : Raised :=
  if e.cls = .foreign "StopIteration" then
    .ofText (.foreign "RuntimeError") "coroutine raised StopIteration"
  else e

end Raised

end BrowserFlow
