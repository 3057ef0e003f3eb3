import BrowserFlow.Failure.Raised
import BrowserFlow.Text.Case

/-!
# Keys

The code points that stand for the keys of a keyboard that type no character. A key is named in any
letter case; what names no key is typed as it is.
-/
namespace BrowserFlow.Remote

def keyCodes : List (String × Nat) :=
  [("NULL", 0xe000), ("CANCEL", 0xe001), ("HELP", 0xe002), ("BACKSPACE", 0xe003),
    ("BACK_SPACE", 0xe003), ("TAB", 0xe004), ("CLEAR", 0xe005), ("RETURN", 0xe006),
    ("ENTER", 0xe007), ("SHIFT", 0xe008), ("LEFT_SHIFT", 0xe008), ("CONTROL", 0xe009),
    ("LEFT_CONTROL", 0xe009), ("ALT", 0xe00a), ("LEFT_ALT", 0xe00a), ("LEFT_OPTION", 0xe00a),
    ("PAUSE", 0xe00b), ("ESCAPE", 0xe00c), ("SPACE", 0xe00d), ("PAGE_UP", 0xe00e),
    ("PAGE_DOWN", 0xe00f), ("END", 0xe010), ("HOME", 0xe011), ("LEFT", 0xe012),
    ("ARROW_LEFT", 0xe012), ("UP", 0xe013), ("ARROW_UP", 0xe013), ("RIGHT", 0xe014),
    ("ARROW_RIGHT", 0xe014), ("DOWN", 0xe015), ("ARROW_DOWN", 0xe015), ("INSERT", 0xe016),
    ("DELETE", 0xe017), ("SEMICOLON", 0xe018), ("EQUALS", 0xe019), ("NUMPAD0", 0xe01a),
    ("NUMPAD1", 0xe01b), ("NUMPAD2", 0xe01c), ("NUMPAD3", 0xe01d), ("NUMPAD4", 0xe01e),
    ("NUMPAD5", 0xe01f), ("NUMPAD6", 0xe020), ("NUMPAD7", 0xe021), ("NUMPAD8", 0xe022),
    ("NUMPAD9", 0xe023), ("MULTIPLY", 0xe024), ("ADD", 0xe025), ("SEPARATOR", 0xe026),
    ("SUBTRACT", 0xe027), ("DECIMAL", 0xe028), ("DIVIDE", 0xe029), ("F1", 0xe031), ("F2", 0xe032),
    ("F3", 0xe033), ("F4", 0xe034), ("F5", 0xe035), ("F6", 0xe036), ("F7", 0xe037), ("F8", 0xe038),
    ("F9", 0xe039), ("F10", 0xe03a), ("F11", 0xe03b), ("F12", 0xe03c), ("META", 0xe03d),
    ("LEFT_META", 0xe03d), ("COMMAND", 0xe03d), ("LEFT_COMMAND", 0xe03d),
    ("ZENKAKU_HANKAKU", 0xe040), ("RIGHT_SHIFT", 0xe050), ("RIGHT_CONTROL", 0xe051),
    ("RIGHT_ALT", 0xe052), ("RIGHT_OPTION", 0xe052), ("RIGHT_META", 0xe053)]

/-- What is typed for the name of a key. -/
def keysFor (key : Value) : Except Raised Value :=
  match key with
  | .str name =>
    match keyCodes.lookup (Text.upper name) with
    | some code => .ok (.str (String.ofList [Char.ofNat code]))
    | none => .ok key
  | .bytes _ => .error (.typeError "attribute name must be string, not 'bytes'")
  | key => .error (.noAttribute key.fullTypeName "upper")

end BrowserFlow.Remote
