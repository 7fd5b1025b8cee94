import Dashwright.Value.Basic
import Dashwright.Failure
import Dashwright.Text.Unicode

/-!
The texts of a value. `Value.repr` is the literal form (texts in quotes, `None`, `True`,
containers in brackets); `Value.str` is the display form, which differs for texts, dates and
loaded mappings. `Value.jsonText` is the compact-spaced JSON form with every character
outside ASCII escaped, which a loaded mapping uses as its display form.
-/

namespace Dashwright

def hexDigit (n : Nat) : Char :=
  if n < 10 then Char.ofNat (48 + n) else Char.ofNat (87 + n)

/-- Lower-case hexadecimal text of `n`, at least `width` digits. -/
def hexText (width : Nat) (n : Nat) : String :=
  let ds := (Nat.toDigits 16 n)
  String.ofList (List.replicate (width - ds.length) '0' ++ ds)

/-- A character as encoding failures quote it: by its code point, as `'\xNN'`, `'\uNNNN'`
or `'\UNNNNNNNN'`. -/
def codecCharText (c : Char) : String :=
  let n := c.toNat
  "'" ++ (if n ≤ 0xff then "\\x" ++ hexText 2 n else if n ≤ 0xffff then "\\u" ++ hexText 4 n
    else "\\U" ++ hexText 8 n) ++ "'"

/-- A text as a literal: in single quotes, or double quotes when it holds a single quote and
no double quote; backslash, the quote and unprintable characters escaped. -/
def quoteText (s : String) : String :=
  let q := if s.contains '\'' && !s.contains '"' then '"' else '\''
  let esc (c : Char) : String :=
    if c == q || c == '\\' then String.ofList ['\\', c]
    else if c == '\t' then "\\t"
    else if c == '\n' then "\\n"
    else if c == '\r' then "\\r"
    else if let some u := Text.loneSurrogate? c then "\\u" ++ hexText 4 u
    else if Text.isPrintable c then String.singleton c
    else if c.toNat ≤ 0xff then "\\x" ++ hexText 2 c.toNat
    else if c.toNat ≤ 0xffff then "\\u" ++ hexText 4 c.toNat
    else "\\U" ++ hexText 8 c.toNat
  String.singleton q ++ String.join (s.toList.map esc) ++ String.singleton q

/-- Bytes as a literal, `b'...'`. -/
def quoteBytes (bs : List UInt8) : String :=
  let hasSingle := bs.contains 39
  let hasDouble := bs.contains 34
  let q : UInt8 := if hasSingle && !hasDouble then 34 else 39
  let esc (b : UInt8) : String :=
    if b == q || b == 92 then String.ofList ['\\', Char.ofNat b.toNat]
    else if b == 9 then "\\t"
    else if b == 10 then "\\n"
    else if b == 13 then "\\r"
    else if b < 32 || b ≥ 127 then "\\x" ++ hexText 2 b.toNat
    else String.singleton (Char.ofNat b.toNat)
  "b" ++ String.singleton (Char.ofNat q.toNat) ++ String.join (bs.map esc) ++
    String.singleton (Char.ofNat q.toNat)

def offsetLiteral (off : Int) : String :=
  if off == 0 then "datetime.timezone.utc"
  else
    let days := if off < 0 then (off - 86399) / 86400 else off / 86400
    let secs := off - days * 86400
    let delta := if days == 0 then "datetime.timedelta(seconds=" ++ toString secs ++ ")"
      else "datetime.timedelta(days=" ++ toString days ++ ", seconds=" ++ toString secs ++ ")"
    "datetime.timezone(" ++ delta ++ ")"

def Date.literal (d : Date) : String :=
  "datetime.date(" ++ toString d.year ++ ", " ++ toString d.month ++ ", " ++ toString d.day ++ ")"

def Moment.literal (m : Moment) : String :=
  let d := m.date
  let parts := [toString d.year, toString d.month, toString d.day, toString m.hour,
    toString m.minute]
  let parts := if m.second != 0 || m.micro != 0 then parts ++ [toString m.second] else parts
  let parts := if m.micro != 0 then parts ++ [toString m.micro] else parts
  let parts := match m.offset with
    | some o => parts ++ ["tzinfo=" ++ offsetLiteral o]
    | none => parts
  "datetime.datetime(" ++ ", ".intercalate parts ++ ")"

/-- A double as the parts of a complex number write it: its shortest form without a
trailing `.0`. -/
def complexPartText (f : Float) : String :=
  let t := Number.floatText f
  if t.endsWith ".0" then String.ofList (t.toList.take (t.length - 2)) else t

/-- The literal of a complex number: the imaginary part alone when the real part is a
positive zero, else both in parentheses, the imaginary part with its sign. -/
def complexLiteral (re im : Float) : String :=
  let imText := complexPartText im
  if re == 0 && !(1.0 / re < 0) then imText ++ "j"
  else
    let signed := if imText.startsWith "-" then imText else "+" ++ imText
    "(" ++ complexPartText re ++ signed ++ "j)"

def rangeLiteral (a b s : Int) : String :=
  "range(" ++ toString a ++ ", " ++ toString b ++ (if s == 1 then "" else ", " ++ toString s) ++ ")"

/-- The literal of a class: its qualified name for the classes of the template globals. -/
def classLiteral (name : String) : String :=
  let qualified := match name with
    | "namespace" => "jinja2.utils.Namespace"
    | "cycler" => "jinja2.utils.Cycler"
    | "joiner" => "jinja2.utils.Joiner"
    | n => n
  "<class '" ++ qualified ++ "'>"

namespace Value

mutual
def repr : Value → String
  | .none => "None"
  | .bool b => if b then "True" else "False"
  | .int i => toString i
  | .float f => Number.floatText f
  | .str s => quoteText s
  | .bytes b => quoteBytes b
  | .date d => d.literal
  | .moment m => m.literal
  | .list xs => "[" ++ reprItems xs ++ "]"
  | .tuple [x] => "(" ++ repr x ++ ",)"
  | .tuple xs => "(" ++ reprItems xs ++ ")"
  | .set [] => "set()"
  | .set xs => "\x7b" ++ reprItems xs ++ "\x7d"
  | .map es Option.none => "\x7b" ++ reprEntries es ++ "\x7d"
  | .map [] (some _) => "YamlOrderedDict()"
  | .map es (some _) => "YamlOrderedDict([" ++ reprPairs es ++ "])"
  | .cycle true => "\x7b...\x7d"
  | .cycle false => "[...]"
  | .range a b s => rangeLiteral a b s
  | .complex re im => complexLiteral re im
  | .classObject n => classLiteral n

def reprItems : List Value → String
  | [] => ""
  | [x] => repr x
  | x :: xs => repr x ++ ", " ++ reprItems xs

def reprEntries : List (Value × Value) → String
  | [] => ""
  | [(k, v)] => repr k ++ ": " ++ repr v
  | (k, v) :: rest => repr k ++ ": " ++ repr v ++ ", " ++ reprEntries rest

def reprPairs : List (Value × Value) → String
  | [] => ""
  | [(k, v)] => "(" ++ repr k ++ ", " ++ repr v ++ ")"
  | (k, v) :: rest => "(" ++ repr k ++ ", " ++ repr v ++ "), " ++ reprPairs rest
end

end Value

/-- A text as a JSON string, every character outside ASCII written as `\u` escapes. -/
def jsonQuote (s : String) : String :=
  let unit (n : Nat) : String := "\\u" ++ hexText 4 n
  let esc (c : Char) : String :=
    match c with
    | '"' => "\\\""
    | '\\' => "\\\\"
    | '\n' => "\\n"
    | '\r' => "\\r"
    | '\t' => "\\t"
    | '\x08' => "\\b"
    | '\x0c' => "\\f"
    | c =>
      let n := c.toNat
      if let some u := Text.loneSurrogate? c then unit u
      else if n < 0x20 || (0x7f ≤ n && n < 0x10000) then unit n
      else if n < 0x7f then String.singleton c
      else
        let m := n - 0x10000
        unit (0xd800 + m / 1024) ++ unit (0xdc00 + m % 1024)
  "\"" ++ String.join (s.toList.map esc) ++ "\""

/-- The JSON text of a double: its shortest form, or NaN and Infinity. -/
def jsonFloat (f : Float) : String :=
  if f.isNaN then "NaN"
  else if f.isInf then (if f < 0 then "-Infinity" else "Infinity")
  else Number.floatText f

namespace Value

def notSerializable (v : Value) : Failure :=
  Failure.wrongType ("Object of type " ++ v.typeName ++ " is not JSON serializable")

/-- The text a JSON object uses for a mapping key. -/
def jsonKey : Value → Outcome String
  | .str s => pure (jsonQuote s)
  | .bool b => pure (if b then "\"true\"" else "\"false\"")
  | .none => pure "\"null\""
  | .int i => pure ("\"" ++ toString i ++ "\"")
  | .float f => pure ("\"" ++ jsonFloat f ++ "\"")
  | v => throw (Failure.wrongType
      ("keys must be str, int, float, bool or None, not " ++ v.typeName))

mutual
/-- The JSON text of a value, items separated by a comma and a space. -/
def jsonText : Value → Outcome String
  | .none => pure "null"
  | .bool b => pure (if b then "true" else "false")
  | .int i => pure (toString i)
  | .float f => pure (jsonFloat f)
  | .str s => pure (jsonQuote s)
  | .list xs => do pure ("[" ++ (← jsonItems xs) ++ "]")
  | .tuple xs => do pure ("[" ++ (← jsonItems xs) ++ "]")
  | .map es _ => do pure ("\x7b" ++ (← jsonEntries es) ++ "\x7d")
  | .cycle _ => throw (Failure.badValue "Circular reference detected")
  | v => throw (notSerializable v)

def jsonItems : List Value → Outcome String
  | [] => pure ""
  | [x] => jsonText x
  | x :: xs => do pure ((← jsonText x) ++ ", " ++ (← jsonItems xs))

def jsonEntries : List (Value × Value) → Outcome String
  | [] => pure ""
  | [(k, v)] => do pure ((← jsonKey k) ++ ": " ++ (← jsonText v))
  | (k, v) :: rest => do
    pure ((← jsonKey k) ++ ": " ++ (← jsonText v) ++ ", " ++ (← jsonEntries rest))
end

/-- JSON text laid out with an indent: each item of a nonempty list or mapping on a line of
its own, indented once more than its container, items separated by a comma alone. -/
def jsonIndented (indent : String) : Nat → Nat → Value → Outcome String
  | 0, _, v => jsonText v
  | fuel + 1, level, v =>
    let pad (n : Nat) : String := "\n" ++ String.join (List.replicate n indent)
    match v with
    | .list [] | .tuple [] => pure "[]"
    | .map [] _ => pure "\x7b\x7d"
    | .list xs | .tuple xs => do
      let items ← xs.mapM (jsonIndented indent fuel (level + 1))
      pure ("[" ++ pad (level + 1) ++ ("," ++ pad (level + 1)).intercalate items ++ pad level ++ "]")
    | .map es _ => do
      let items ← es.mapM fun (k, x) => do
        pure ((← jsonKey k) ++ ": " ++ (← jsonIndented indent fuel (level + 1) x))
      pure ("\x7b" ++ pad (level + 1) ++ ("," ++ pad (level + 1)).intercalate items ++ pad level ++ "\x7d")
    | _ => jsonText v

/-- The display form of a value: a text as it is, a date in ISO form, a loaded mapping as
JSON, anything else as its literal. -/
def display : Value → Outcome String
  | .str s => pure s
  | .date d => pure d.iso
  | .moment m => pure (m.isoWith " ")
  | .map es (some l) => jsonText (.map es (some l))
  | v => pure v.repr

/-- The display form, for values whose display cannot fail (all but loaded mappings). -/
def text (v : Value) : String :=
  match v.display with
  | .ok s => s
  | .error _ => v.repr

end Value

end Dashwright
