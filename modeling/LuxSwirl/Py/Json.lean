import LuxSwirl.Lib.Fields
import LuxSwirl.Py.Text

/-!
# Reading a JSON text

`json.loads` on a text of any origin, such as the body of an HTTP answer. The
reader takes the text one code point at a time: the arrays and objects that
still wait for a value are a stack, and the mode says what may come next. So
the reading ends with the text, and the first fault in the text decides the
error, as in CPython's scanner.

A number stays its literal, since nothing that reads an answer looks inside
one.
-/

namespace LuxSwirl.Py
open LuxSwirl.Lib

inductive Json where
  | null
  | bool (value : Bool)
  | num (literal : List Char)
  | str (value : Text)
  | arr (items : List Json)
  | obj (fields : List (Text × Json))

/-- How `json.loads` fails: a `ValueError` on a malformed text, a
`RecursionError` on one nested too deep. -/
inductive LoadsError where
  | valueError
  | recursionError
  deriving DecidableEq

namespace Json

/-- An array or object that waits for its next value. -/
inductive Frame where
  | item (items : List Json)
  | field (fields : List (Text × Json)) (key : Text)

/-- Where in a string the reader stands. -/
inductive Escape where
  | none
  | backslash
  | unicode (digits : List Nat)

/-- What a string read so far holds, last code point first, and whether its
last code point is an escaped high half that an escaped low half would join. -/
structure Chars where
  reversed : Text := []
  open? : Bool := false
  escape : Escape := .none

inductive Mode where
  | value
  | firstItem
  | afterItem (items : List Json)
  | firstKey
  | nextKey (fields : List (Text × Json))
  | keyText (fields : List (Text × Json)) (chars : Chars)
  | afterKey (fields : List (Text × Json)) (key : Text)
  | afterField (fields : List (Text × Json))
  | valueText (chars : Chars)
  | token (reversed : List Char)
  | finished (value : Json)

structure Reader where
  mode : Mode := .value
  stack : List Frame := []

/-- A value is complete: it goes to what waits for it. -/
def Reader.complete (value : Json) : List Frame → Reader
  | [] => { mode := .finished value }
  | .item items :: stack => { mode := .afterItem (items ++ [value]), stack }
  | .field fields key :: stack => { mode := .afterField (fields ++ [(key, value)]), stack }

/-! ## Numbers and words -/

def exponentOk : List Char → Bool
  | [] => true
  | e :: rest =>
    let digits := match rest with
      | '+' :: digits => digits
      | '-' :: digits => digits
      | digits => digits
    (e == 'e' || e == 'E') && !digits.isEmpty && digits.all Char.isDigit

def fractionOk : List Char → Bool
  | '.' :: rest =>
    let digits := rest.takeWhile Char.isDigit
    !digits.isEmpty && exponentOk (rest.drop digits.length)
  | rest => exponentOk rest

/-- The literal is a JSON number, and an integer of no more digits than the
interpreter converts. -/
def numberOk (literal : List Char) : Bool :=
  let unsigned := match literal with
    | '-' :: rest => rest
    | rest => rest
  let whole := unsigned.takeWhile Char.isDigit
  let rest := unsigned.drop whole.length
  !whole.isEmpty && (whole.head? != some '0' || whole.length == 1) && fractionOk rest &&
    (!rest.isEmpty || decide (whole.length ≤ 4300))

/-- The value a bare token stands for. -/
def ofToken (token : List Char) : Option Json :=
  if token = "null".toList then some .null
  else if token = "true".toList then some (.bool true)
  else if token = "false".toList then some (.bool false)
  else if token = "NaN".toList ∨ token = "Infinity".toList ∨ token = "-Infinity".toList then
    some (.num token)
  else if numberOk token then some (.num token)
  else none

def isTokenChar (c : Char) : Bool := c.isAlphanum || c == '+' || c == '-' || c == '.'

def isBlank (c : CodePoint) : Bool :=
  c = .scalar ' ' || c = .scalar '\t' || c = .scalar '\n' || c = .scalar '\r'

/-! ## Strings -/

def hexDigit (c : Char) : Option Nat :=
  if c.isDigit then some (c.toNat - '0'.toNat)
  else if 'a' ≤ c ∧ c ≤ 'f' then some (c.toNat - 'a'.toNat + 10)
  else if 'A' ≤ c ∧ c ≤ 'F' then some (c.toNat - 'A'.toNat + 10)
  else none

/-- The character a one-letter escape stands for. -/
def shortEscape (c : Char) : Option Char :=
  match c with
  | '"' => some '"'
  | '\\' => some '\\'
  | '/' => some '/'
  | 'b' => some '\x08'
  | 'f' => some '\x0c'
  | 'n' => some '\n'
  | 'r' => some '\r'
  | 't' => some '\t'
  | _ => none

/-- The string with an escaped code unit added, joined to an open high half. -/
def Chars.addUnit (chars : Chars) (unit : Nat) : Chars :=
  match chars.open?, chars.reversed, CodePoint.ofUnit unit with
  | true, .high h :: rest, .low l => { reversed := .scalar (joined h l) :: rest }
  | _, reversed, .high h => { reversed := .high h :: reversed, open? := true }
  | _, reversed, c => { reversed := c :: reversed }

/-- One code point inside a string; none at the quote that ends it. -/
def Chars.step (chars : Chars) (c : CodePoint) : Except LoadsError (Option Chars) :=
  match chars.escape, c with
  | .none, .scalar '"' => .ok none
  | .none, .scalar '\\' => .ok (some { chars with escape := .backslash })
  | .none, .scalar c =>
    if c.toNat < 0x20 then .error .valueError
    else .ok (some { reversed := .scalar c :: chars.reversed })
  | .none, c => .ok (some { reversed := c :: chars.reversed })
  | .backslash, .scalar 'u' => .ok (some { chars with escape := .unicode [] })
  | .backslash, .scalar c =>
    match shortEscape c with
    | some d => .ok (some { reversed := .scalar d :: chars.reversed })
    | none => .error .valueError
  | .unicode digits, .scalar c =>
    match hexDigit c, digits with
    | some d, [x, y, z] =>
      .ok (some (chars.addUnit (((x * 16 + y) * 16 + z) * 16 + d)))
    | some d, digits => .ok (some { chars with escape := .unicode (digits ++ [d]) })
    | none, _ => .error .valueError
  | _, _ => .error .valueError

/-! ## The reader -/

/-- A code point where a value starts. -/
def Reader.begin (limit : Nat) (stack : List Frame) (c : CodePoint) : Except LoadsError Reader :=
  match c with
  | .scalar '"' => .ok { mode := .valueText {}, stack }
  | .scalar '[' =>
    if limit ≤ stack.length then .error .recursionError else .ok { mode := .firstItem, stack }
  | .scalar '{' =>
    if limit ≤ stack.length then .error .recursionError else .ok { mode := .firstKey, stack }
  | .scalar c => if isTokenChar c then .ok { mode := .token [c], stack } else .error .valueError
  | _ => .error .valueError

/-- A code point after a complete value. -/
def Reader.separate (reader : Reader) (c : CodePoint) : Except LoadsError Reader :=
  if isBlank c then .ok reader
  else
    match reader.mode, c with
    | .afterItem items, .scalar ',' => .ok { mode := .value, stack := .item items :: reader.stack }
    | .afterItem items, .scalar ']' => .ok (complete (.arr items) reader.stack)
    | .afterField fields, .scalar ',' => .ok { reader with mode := .nextKey fields }
    | .afterField fields, .scalar '}' => .ok (complete (.obj (Fields.ofPairs fields)) reader.stack)
    | _, _ => .error .valueError

/-- One code point of the text, under a limit on how deep arrays and objects nest. -/
def Reader.step (limit : Nat) (reader : Reader) (c : CodePoint) : Except LoadsError Reader :=
  match reader.mode with
  | .value => if isBlank c then .ok reader else begin limit reader.stack c
  | .firstItem =>
    if isBlank c then .ok reader
    else if c = .scalar ']' then .ok (complete (.arr []) reader.stack)
    else begin limit (.item [] :: reader.stack) c
  | .firstKey =>
    if isBlank c then .ok reader
    else if c = .scalar '}' then .ok (complete (.obj []) reader.stack)
    else if c = .scalar '"' then .ok { reader with mode := .keyText [] {} }
    else .error .valueError
  | .nextKey fields =>
    if isBlank c then .ok reader
    else if c = .scalar '"' then .ok { reader with mode := .keyText fields {} }
    else .error .valueError
  | .keyText fields chars => do
    match ← chars.step c with
    | none => return { reader with mode := .afterKey fields chars.reversed.reverse }
    | some chars => return { reader with mode := .keyText fields chars }
  | .afterKey fields key =>
    if isBlank c then .ok reader
    else if c = .scalar ':' then .ok { mode := .value, stack := .field fields key :: reader.stack }
    else .error .valueError
  | .valueText chars => do
    match ← chars.step c with
    | none => return complete (.str chars.reversed.reverse) reader.stack
    | some chars => return { reader with mode := .valueText chars }
  | .token reversed =>
    match c with
    | .scalar t =>
      if isTokenChar t then .ok { reader with mode := .token (t :: reversed) }
      else
        match ofToken reversed.reverse with
        | some value => (complete value reader.stack).separate c
        | none => .error .valueError
    | _ => .error .valueError
  | .afterItem _ | .afterField _ | .finished _ => reader.separate c

/-- The end of the text. -/
def Reader.finish (reader : Reader) : Except LoadsError Json :=
  match reader.mode, reader.stack with
  | .finished value, _ => .ok value
  | .token reversed, [] =>
    match ofToken reversed.reverse with
    | some value => .ok value
    | none => .error .valueError
  | _, _ => .error .valueError

end Json

/-- `json.loads(s)`, where arrays and objects may nest `limit` deep. -/
def jsonLoads (limit : Nat) (s : Text) : Except LoadsError Json := do
  (← s.foldlM (Json.Reader.step limit) {}).finish

example : jsonLoads 2 (text "\x7b\"a\": [1, -2.5e3], \"a\": \"\\u0041\"\x7d") =
    .ok (.obj [(text "a", .str (text "A"))]) := rfl

example : jsonLoads 1 (text "[[]]") = .error .recursionError := rfl

end LuxSwirl.Py
