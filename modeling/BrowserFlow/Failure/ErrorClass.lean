import BrowserFlow.Failure.Kind

/-!
# Classes of errors

What a step, a callback or a driver can raise. The errors of steps carry the kind of failure they
become; the errors of sessions and drivers and those of a remote browser are families of their own;
anything else is foreign and known by its name. A class has a name and a set of families it belongs
to.
-/
namespace BrowserFlow

/-- Errors raised inside steps. -/
inductive StepErrorClass
  | plain | resolution | interaction | assertion | usage | missingItem | cancelled
deriving DecidableEq, Repr

/-- Errors raised by a remote browser. -/
inductive BrowserErrorClass
  | general | timeout | noSuchElement | staleElement | invalidSelector | notInteractable
  | sessionNotCreated | script | unexpectedTag
deriving DecidableEq, Repr

inductive ErrorClass
  | general
  | configuration
  | session
  | unsupportedBrowser
  | driver
  | driverTimeout
  | step (kind : StepErrorClass)
  | browser (kind : BrowserErrorClass)
  | validation
  | foreign (name : String)
deriving DecidableEq, Repr, Inhabited

namespace StepErrorClass

def name : StepErrorClass → String
  | plain => "StepError"
  | resolution => "ResolutionError"
  | interaction => "InteractionError"
  | assertion => "FlowAssertionError"
  | usage => "UsageError"
  | missingItem => "MissingItemError"
  | cancelled => "ChainCancelledError"

/-- The kind of failure that an error of this class becomes. -/
def failureKind : StepErrorClass → FailureKind
  | plain => .unexpected
  | resolution => .resolution
  | interaction => .interaction
  | assertion => .assertion
  | usage => .usage
  | missingItem => .usage
  | cancelled => .cancelled

def all : List StepErrorClass :=
  [plain, resolution, interaction, assertion, usage, missingItem, cancelled]

end StepErrorClass

namespace BrowserErrorClass

def name : BrowserErrorClass → String
  | general => "WebDriverException"
  | timeout => "TimeoutException"
  | noSuchElement => "NoSuchElementException"
  | staleElement => "StaleElementReferenceException"
  | invalidSelector => "InvalidSelectorException"
  | notInteractable => "ElementNotInteractableException"
  | sessionNotCreated => "SessionNotCreatedException"
  | script => "JavascriptException"
  | unexpectedTag => "UnexpectedTagNameException"

def all : List BrowserErrorClass :=
  [general, timeout, noSuchElement, staleElement, invalidSelector, notInteractable,
    sessionNotCreated, script, unexpectedTag]

/-- The classes whose message ends with a pointer to the page that explains them. -/
def isExplained : BrowserErrorClass → Bool
  | noSuchElement | staleElement | invalidSelector | notInteractable | sessionNotCreated => true
  | general | timeout | script | unexpectedTag => false

/-- The address of the page on errors, part by part. -/
def errorsPage : List String :=
  ["https:", "", "www.selenium.dev", "documentation", "webdriver", "troubleshooting", "errors"]

/-- The pointer at the end of an explained message; the anchor is the class name in lower case. -/
def explanation (kind : BrowserErrorClass) : String :=
  "; For documentation on this error, please visit: " ++ "/".intercalate errorsPage ++ "#" ++
    kind.name.toLower

end BrowserErrorClass

/-- The families of general errors that a foreign error belongs to besides its own. -/
def foreignFamilies (name : String) : List String :=
  if name = "IndexError" ∨ name = "KeyError" then ["LookupError"]
  else if name = "NotImplementedError" ∨ name = "RecursionError" then ["RuntimeError"]
  else if name = "UnicodeError" then ["ValueError"]
  else if ["UnicodeDecodeError", "UnicodeEncodeError", "UnicodeTranslateError"].contains name then
    ["UnicodeError", "ValueError"]
  else if name = "IndentationError" then ["SyntaxError"]
  else if name = "TabError" then ["IndentationError", "SyntaxError"]
  else if ["TimeoutError", "BlockingIOError", "ChildProcessError", "ConnectionError",
      "FileExistsError", "FileNotFoundError", "InterruptedError", "IsADirectoryError",
      "NotADirectoryError", "PermissionError", "ProcessLookupError"].contains name then ["OSError"]
  else if ["BrokenPipeError", "ConnectionAbortedError", "ConnectionRefusedError",
      "ConnectionResetError"].contains name then ["ConnectionError", "OSError"]
  else []

namespace ErrorClass

def name : ErrorClass → String
  | general => "UiFlowError"
  | configuration => "ConfigurationError"
  | session => "SessionError"
  | unsupportedBrowser => "UnsupportedBrowserError"
  | driver => "DriverError"
  | driverTimeout => "DriverTimeoutError"
  | step kind => kind.name
  | browser kind => kind.name
  | validation => "ValidationError"
  | foreign name => name

/-- Older names of the class of all errors of the operating system. -/
def systemNames : List String := ["IOError", "EnvironmentError"]

/-- Reads a class name; a name of no class of the library is foreign. -/
def ofName (s : String) : ErrorClass :=
  let s := if systemNames.contains s then "OSError" else s
  let own :=
    [general, configuration, session, unsupportedBrowser, driver, driverTimeout, validation] ++
    StepErrorClass.all.map step ++ BrowserErrorClass.all.map browser
  (own.find? (·.name = s)).getD (foreign s)

def isDriver : ErrorClass → Bool
  | driver | driverTimeout => true
  | _ => false

def isSession : ErrorClass → Bool
  | session | unsupportedBrowser => true
  | _ => false

/-- The names of the families a class belongs to, its own first. -/
def families : ErrorClass → List String
  | general => ["UiFlowError"]
  | configuration => ["ConfigurationError", "UiFlowError"]
  | session => ["SessionError", "UiFlowError"]
  | unsupportedBrowser => ["UnsupportedBrowserError", "SessionError", "UiFlowError", "ValueError"]
  | driver => ["DriverError", "UiFlowError"]
  | driverTimeout => ["DriverTimeoutError", "DriverError", "UiFlowError", "TimeoutError", "OSError"]
  | step .plain => ["StepError", "UiFlowError"]
  | step .usage => ["UsageError", "StepError", "UiFlowError", "ValueError"]
  | step .missingItem =>
    ["MissingItemError", "UsageError", "StepError", "UiFlowError", "ValueError", "KeyError",
      "LookupError"]
  | step kind => [kind.name, "StepError", "UiFlowError"]
  | browser .general => ["WebDriverException"]
  | browser kind => [kind.name, "WebDriverException"]
  | validation => ["ValidationError", "ValueError"]
  | foreign name => name :: foreignFamilies name

/-- Is the class among the operating system's errors? -/
def isSystem (c : ErrorClass) : Bool := c.families.contains "OSError"

/-- The kind that an error of a step carries. -/
def failureKind? : ErrorClass → Option FailureKind
  | step kind => some kind.failureKind
  | _ => none

end ErrorClass

end BrowserFlow
