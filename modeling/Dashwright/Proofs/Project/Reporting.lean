import Dashwright.Project.Report
import Dashwright.Proofs.Text.Split
import Dashwright.Proofs.Loops

/-!
Placing a refused input in the project's files. The entry `key: input` is written as YAML and
its first line, without the white space and dashes that open it, is looked for in the lines of
a file, each without its opening blanks, tabs and dashes. The search is for containment: the
line reported is the first that holds the entry anywhere (`findLine_first_containing`), so a
line of a longer key that ends in the entry, or of a longer value that continues it, is taken
when it comes first. An input that is a number, a truth value or a text is placed in the first
file on disk where some line holds its entry (`locateInput_first_file`).
-/

namespace Dashwright.Project

/-- The lines of a file as the search reads them: read in text mode, split at line breaks, each
without the blanks, tabs and dashes that open it. -/
def searchedLines (content : String) : List String :=
  (Text.splitOn (Text.universalNewlines content) "\n").map dropLineOpening

section FirstHit

variable {α : Type} {p : α → Bool}

theorem findIdx?_first (xs : List α) :
    (∃ before x after, xs = before ++ x :: after ∧ p x = true ∧ (∀ y ∈ before, p y = false) ∧
        xs.findIdx? p = some before.length) ∨
      ((∀ y ∈ xs, p y = false) ∧ xs.findIdx? p = none) := by
  induction xs with
  | nil => exact .inr ⟨(fun _ member => by cases member), rfl⟩
  | cons y ys ih =>
    rw [List.findIdx?_cons]
    cases accepted : p y with
    | true => exact .inl ⟨[], y, ys, rfl, accepted, (fun _ member => by cases member), rfl⟩
    | false =>
      simp only [Bool.false_eq_true, if_false]
      rcases ih with ⟨before, x, after, split, hit, refused, found⟩ | ⟨refused, missing⟩
      · refine .inl ⟨y :: before, x, after, by rw [split, List.cons_append], hit, ?_, ?_⟩
        · intro z member
          rcases List.mem_cons.mp member with rfl | earlier
          · exact accepted
          · exact refused z earlier
        · rw [found, Option.map_some, List.length_cons]
      · refine .inr ⟨fun z member => ?_, by rw [missing, Option.map_none]⟩
        rcases List.mem_cons.mp member with rfl | later
        · exact accepted
        · exact refused z later

end FirstHit

theorem lineHolding_first (pat : String) (lines : List String) :
    (∃ before line after, lines = before ++ line :: after ∧ pat.toList <:+: line.toList ∧
        (∀ l ∈ before, ¬ pat.toList <:+: l.toList) ∧ lineHolding pat lines = before.length + 1) ∨
      ((∀ l ∈ lines, ¬ pat.toList <:+: l.toList) ∧ lineHolding pat lines = -1) := by
  have holds (l : String) : Text.contains l pat = true ↔ pat.toList <:+: l.toList :=
    Text.contains_iff_infix l pat
  rcases @findIdx?_first _ (Text.contains · pat) lines with
    ⟨before, line, after, split, hit, refused, found⟩ | ⟨refused, missing⟩
  · refine .inl ⟨before, line, after, split, (holds line).mp hit, fun l member occurs => ?_, ?_⟩
    · have refusedHere := refused l member
      rw [(holds l).mpr occurs] at refusedHere
      cases refusedHere
    · simp only [lineHolding, found]
  · refine .inr ⟨fun l member occurs => ?_, by simp only [lineHolding, missing]⟩
    have refusedHere := refused l member
    rw [(holds l).mpr occurs] at refusedHere
    cases refusedHere

theorem splitOn_oneLine {L : String} (oneLine : '\n' ∉ L.toList) :
    Text.splitOn (L ++ "\n") "\n" = [L, ""] := by
  have absent : ¬ ['\n'] <:+: L.toList := fun occurs =>
    oneLine (List.singleton_sublist.mp occurs.sublist)
  -- a one-character separator has no part past its first character to straddle with
  have unmatched : Text.Unmatched ['\n'] (['\n'] ++ []) := fun k short positive => by
    simp only [List.length_singleton] at short
    omega
  have clear : Text.StartsNowhereIn ['\n'] L.toList (['\n'] ++ []) :=
    Text.startsNowhereIn_of_absent absent unmatched
  have split : Text.splitList ['\n'] [] (L.toList ++ ['\n'] ++ []) = ([] ++ L.toList) :: Text.splitList ['\n'] [] [] :=
    Text.splitList_at_first (List.cons_ne_nil _ _) clear
  simp only [List.append_nil, List.nil_append, Text.splitList_nil] at split
  unfold Text.splitOn
  simp [split]

/-- Where a single entry is written: when the entry is written as one line `L`, the search
reports the first line of the file that holds `L`, without its opening white space and
dashes, anywhere in it, counted from one, or -1 when no line holds it. -/
theorem findLine_first_containing {content L : String} {k v : Value}
    (written : Yaml.dumpText (Value.dict [(k, v)]) = .ok (L ++ "\n")) (oneLine : '\n' ∉ L.toList) :
    (∃ before line after, searchedLines content = before ++ line :: after ∧
        (dropDumpOpening L).toList <:+: line.toList ∧
        (∀ l ∈ before, ¬ (dropDumpOpening L).toList <:+: l.toList) ∧
        findLine content [(k, v)] = .ok (before.length + 1)) ∨
      ((∀ l ∈ searchedLines content, ¬ (dropDumpOpening L).toList <:+: l.toList) ∧
        findLine content [(k, v)] = .ok (-1)) := by
  have search : findLine content [(k, v)] =
      .ok (lineHolding (dropDumpOpening L) (searchedLines content)) := by
    simp only [findLine, written, ok_bind, splitOn_oneLine oneLine, List.headD_cons]
    rfl
  rw [search]
  rcases lineHolding_first (dropDumpOpening L) (searchedLines content) with
    ⟨before, line, after, split, hit, refused, found⟩ | ⟨refused, missing⟩
  · exact .inl ⟨before, line, after, split, hit, refused, by rw [found]⟩
  · exact .inr ⟨refused, by rw [missing]⟩

/-- The entry `required: value` is written on one line, and the search reports the first line
that holds it. -/
theorem findLine_first_containing_required :
    Yaml.dumpText (Value.dict [(.str "required", .str "value")]) = .ok ("required: value" ++ "\n") ∧
      '\n' ∉ "required: value".toList ∧
      ((∃ before line after,
          searchedLines "other_required: value\nrequired: value\n" = before ++ line :: after ∧
          (dropDumpOpening "required: value").toList <:+: line.toList ∧
          (∀ l ∈ before, ¬ (dropDumpOpening "required: value").toList <:+: l.toList) ∧
          findLine "other_required: value\nrequired: value\n" [(.str "required", .str "value")] =
            .ok (before.length + 1)) ∨
        ((∀ l ∈ searchedLines "other_required: value\nrequired: value\n",
            ¬ (dropDumpOpening "required: value").toList <:+: l.toList) ∧
          findLine "other_required: value\nrequired: value\n" [(.str "required", .str "value")] =
            .ok (-1))) := by
  have written : Yaml.dumpText (Value.dict [(.str "required", .str "value")]) =
      .ok ("required: value" ++ "\n") := by
    decide +kernel
  have oneLine : '\n' ∉ "required: value".toList := by decide
  exact ⟨written, oneLine, findLine_first_containing written oneLine⟩

/-- A longer key that ends in the one sought comes first, and its line is the one reported. -/
theorem findLine_takes_longerKey :
    findLine "other_required: value\nrequired: value\n" [(.str "required", .str "value")] = .ok 1 := by
  decide +kernel

theorem represent_scalar {v : Value} {tag text : String} (form : Yaml.scalarForm v = some (tag, text)) :
    Yaml.represent v = .ok (.scalar tag text) := by
  cases v with
  | list _ | tuple _ | set _ | map _ _ => cases form
  | _ =>
    simp only [Yaml.represent, form]
    rfl

theorem dumpText_entry_ok {k v : Value} {kt kx vt vx : String} (keyForm : Yaml.scalarForm k = some (kt, kx))
    (valueForm : Yaml.scalarForm v = some (vt, vx)) : ∃ s, Yaml.dumpText (Value.dict [(k, v)]) = .ok s := by
  have pairs : Yaml.representEntries [(k, v)] = .ok [(k, (.scalar kt kx, .scalar vt vx))] := by
    simp only [Yaml.representEntries, represent_scalar keyForm, represent_scalar valueForm]
    rfl
  simp only [Yaml.dumpText, Value.dict, Yaml.represent, pairs]
  exact ⟨_, rfl⟩

/-- The inputs that are looked for in the files: integers, truth values and texts. -/
def placeable : Value → Bool
  | .int _ | .bool _ | .str _ => true
  | _ => false

theorem scalarForm_of_placeable {v : Value} (sought : placeable v = true) :
    ∃ tag text, Yaml.scalarForm v = some (tag, text) := by
  cases v with
  | int i => exact ⟨_, _, rfl⟩
  | bool b => exact ⟨_, _, rfl⟩
  | str s => exact ⟨_, _, rfl⟩
  | _ => cases sought

theorem findLine_answers (content : String) {k v : Value} (key : placeable k = true)
    (sought : placeable v = true) : ∃ n, findLine content [(k, v)] = .ok n := by
  obtain ⟨kt, kx, keyForm⟩ := scalarForm_of_placeable key
  obtain ⟨vt, vx, valueForm⟩ := scalarForm_of_placeable sought
  obtain ⟨s, written⟩ := dumpText_entry_ok keyForm valueForm
  simp only [findLine, written, ok_bind]
  exact ⟨_, rfl⟩

theorem findLine_bind_answers {β : Type} (content : String) {k v : Value} (key : placeable k = true)
    (sought : placeable v = true) (g : Int → Outcome β) (each : ∀ n, ∃ s, g n = pure s) :
    ∃ s, (findLine content [(k, v)] >>= g) = pure s := by
  obtain ⟨n, found⟩ := findLine_answers content key sought
  rw [found, ok_bind]
  exact each n

section Placing

variable {files : List (String × Option String)} {e : FieldError} {v k : Value} {loc : List Value}

def NoneHolding (files : List (String × Option String)) (k v : Value) : Prop :=
  ∀ f ∈ files, ∀ text, f.2 = some text → findLine text [(k, v)] = .ok (-1)

theorem locateInput_first_file (input : e.input = some v) (sought : placeable v = true)
    (path : e.loc = some loc) (last : loc.getLast? = some k) (key : k.hashable = true)
    {before after : List (String × Option String)} {name text : String} {n : Int}
    (split : files = before ++ (name, some text) :: after) (earlier : NoneHolding before k v)
    (found : findLine text [(k, v)] = .ok n) (onLine : 0 ≤ n) :
    locateInput files e = .ok (some ("     Location: " ++ name ++ ":" ++ toString n ++ "\n\n")) := by
  cases v with
  | int _ | bool _ | str _ =>
    unfold locateInput
    simp only [input, path, Option.getD_some, last, pure_bind, key, Bool.not_true, Bool.false_eq_true,
      if_false, split]
    rw [forIn_skip before _ ?passed, List.forIn_cons]
    · simp only [found, onLine, ok_bind, if_true]
      rfl
    case passed =>
      intro f member
      obtain ⟨fname, content⟩ := f
      cases content with
      | none => rfl
      | some t =>
        simp only [earlier _ member t rfl, ok_bind]
        rw [if_neg (by omega)]
  | _ => cases sought

theorem locateInput_unplaced (input : e.input = some v) (sought : placeable v = true)
    (path : e.loc = some loc) (last : loc.getLast? = some k) (key : k.hashable = true)
    (nowhere : NoneHolding files k v) : locateInput files e = .ok none := by
  cases v with
  | int _ | bool _ | str _ =>
    unfold locateInput
    simp only [input, path, Option.getD_some, last, pure_bind, key, Bool.not_true, Bool.false_eq_true,
      if_false]
    rw [← List.append_nil files, forIn_skip files [] ?passed]
    · rfl
    case passed =>
      intro f member
      obtain ⟨fname, content⟩ := f
      cases content with
      | none => rfl
      | some t =>
        simp only [nowhere _ member t rfl, ok_bind]
        rw [if_neg (by omega)]
  | _ => cases sought

end Placing

/-- The keys JSON writes a mapping with: null, truth values, numbers and texts. -/
def jsonKeyable : Value → Bool
  | .none | .bool _ | .int _ | .float _ | .str _ => true
  | _ => false

/-- The values JSON writes: null, truth values, numbers and texts, and lists, tuples and
mappings of such values whose keys JSON writes. Dates, moments, sets and bytes are not among
them, nor a container that holds itself. -/
inductive JsonWritable : Value → Prop
  | none : JsonWritable .none
  | bool (b : Bool) : JsonWritable (.bool b)
  | int (i : Int) : JsonWritable (.int i)
  | float (f : Float) : JsonWritable (.float f)
  | str (s : String) : JsonWritable (.str s)
  | list {xs : List Value} : (∀ x ∈ xs, JsonWritable x) → JsonWritable (.list xs)
  | tuple {xs : List Value} : (∀ x ∈ xs, JsonWritable x) → JsonWritable (.tuple xs)
  | map {es : List (Value × Value)} {locs : Option (List (Value × String × String))} :
      (∀ e ∈ es, jsonKeyable e.1 = true) → (∀ e ∈ es, JsonWritable e.2) → JsonWritable (.map es locs)

section Answers

variable {α β γ : Type}

theorem answers_bind_pure (x : Outcome α) (f : α → β) :
    (∃ s, (x >>= fun a => pure (f a)) = .ok s) ↔ ∃ a, x = .ok a := by
  cases x with
  | error e =>
    constructor
    all_goals
      rintro ⟨_, failed⟩
      cases failed
  | ok a => exact ⟨fun _ => ⟨a, rfl⟩, fun _ => ⟨f a, rfl⟩⟩

theorem answers_bind_bind (x : Outcome α) (y : Outcome β) (f : α → β → γ) :
    (∃ s, (x >>= fun a => y >>= fun b => pure (f a b)) = .ok s) ↔
      (∃ a, x = .ok a) ∧ ∃ b, y = .ok b := by
  cases x with
  | error e =>
    constructor
    · rintro ⟨_, failed⟩
      cases failed
    · rintro ⟨⟨_, failed⟩, _⟩
      cases failed
  | ok a =>
    rw [ok_bind, answers_bind_pure]
    exact ⟨fun second => ⟨⟨a, rfl⟩, second⟩, And.right⟩

theorem answers_bind_bind_bind {δ : Type} (x : Outcome α) (y : Outcome β) (z : Outcome γ)
    (f : α → β → γ → δ) :
    (∃ s, (x >>= fun a => y >>= fun b => z >>= fun c => pure (f a b c)) = .ok s) ↔
      (∃ a, x = .ok a) ∧ (∃ b, y = .ok b) ∧ ∃ c, z = .ok c := by
  cases x with
  | error e =>
    constructor
    · rintro ⟨_, failed⟩
      cases failed
    · rintro ⟨⟨_, failed⟩, _⟩
      cases failed
  | ok a =>
    rw [ok_bind, answers_bind_bind]
    exact ⟨fun rest => ⟨⟨a, rfl⟩, rest⟩, And.right⟩

end Answers

theorem jsonKey_ok_iff (k : Value) : (∃ s, Value.jsonKey k = .ok s) ↔ jsonKeyable k = true := by
  cases k with
  | none | bool _ | int _ | float _ | str _ => exact ⟨fun _ => rfl, fun _ => ⟨_, rfl⟩⟩
  | _ =>
    constructor
    · rintro ⟨_, failed⟩
      cases failed
    · intro keyable
      simp [jsonKeyable] at keyable

mutual

theorem jsonText_ok_iff : ∀ v : Value, (∃ s, v.jsonText = .ok s) ↔ JsonWritable v
  | .none => ⟨fun _ => .none, fun _ => ⟨_, rfl⟩⟩
  | .bool b => ⟨fun _ => .bool b, fun _ => ⟨_, rfl⟩⟩
  | .int i => ⟨fun _ => .int i, fun _ => ⟨_, rfl⟩⟩
  | .float f => ⟨fun _ => .float f, fun _ => ⟨_, rfl⟩⟩
  | .str s => ⟨fun _ => .str s, fun _ => ⟨_, rfl⟩⟩
  | .list xs => by
    simp only [Value.jsonText]
    rw [answers_bind_pure, jsonItems_ok_iff xs]
    refine ⟨.list, fun written => ?_⟩
    cases written with
    | list each => exact each
  | .tuple xs => by
    simp only [Value.jsonText]
    rw [answers_bind_pure, jsonItems_ok_iff xs]
    refine ⟨.tuple, fun written => ?_⟩
    cases written with
    | tuple each => exact each
  | .map es locs => by
    simp only [Value.jsonText]
    rw [answers_bind_pure, jsonEntries_ok_iff es]
    refine ⟨fun each => .map (fun e member => (each e member).1) (fun e member => (each e member).2),
      fun written => ?_⟩
    cases written with
    | map keys values => exact fun e member => ⟨keys e member, values e member⟩
  | .bytes _ | .date _ | .moment _ | .set _ | .cycle _ | .range _ _ _ | .complex _ _
  | .classObject _ => by
    constructor
    · rintro ⟨_, failed⟩
      cases failed
    · intro written
      cases written

theorem jsonItems_ok_iff : ∀ xs : List Value,
    (∃ s, Value.jsonItems xs = .ok s) ↔ ∀ x ∈ xs, JsonWritable x
  | [] => ⟨fun _ _ member => (by cases member), fun _ => ⟨_, rfl⟩⟩
  | [x] => by
    simp only [Value.jsonItems]
    rw [jsonText_ok_iff x, List.forall_mem_singleton]
  | x :: y :: rest => by
    simp only [Value.jsonItems]
    rw [answers_bind_bind, jsonText_ok_iff x, jsonItems_ok_iff (y :: rest)]
    simp only [List.forall_mem_cons]

theorem jsonEntries_ok_iff : ∀ es : List (Value × Value),
    (∃ s, Value.jsonEntries es = .ok s) ↔ ∀ e ∈ es, jsonKeyable e.1 = true ∧ JsonWritable e.2
  | [] => ⟨fun _ _ member => (by cases member), fun _ => ⟨_, rfl⟩⟩
  | [(k, v)] => by
    simp only [Value.jsonEntries]
    rw [answers_bind_bind, jsonKey_ok_iff k, jsonText_ok_iff v, List.forall_mem_singleton]
  | (k, v) :: e :: rest => by
    simp only [Value.jsonEntries]
    rw [answers_bind_bind_bind, jsonKey_ok_iff k, jsonText_ok_iff v, jsonEntries_ok_iff (e :: rest)]
    simp only [List.forall_mem_cons, and_assoc]

end

theorem display_ok_iff (v : Value) :
    (∃ s, v.display = .ok s) ↔ ∀ es locs, v = .map es (some locs) → JsonWritable v := by
  cases v with
  | map es locs =>
    cases locs with
    | some l =>
      simp only [Value.display]
      rw [jsonText_ok_iff]
      exact ⟨fun written _ _ _ => written, fun each => each es l rfl⟩
    | none => exact ⟨fun _ _ _ same => (by cases same), fun _ => ⟨_, rfl⟩⟩
  | _ => exact ⟨fun _ _ _ same => (by cases same), fun _ => ⟨_, rfl⟩⟩

/-- An error as a validation gives it: a path of texts and positions to the field, not empty,
a text message, and the input refused; a loaded mapping records a position for each of its
keys. -/
structure FieldError.Reported (e : FieldError) : Prop where
  path : ∃ loc, e.loc = some loc ∧ loc ≠ [] ∧ ∀ x ∈ loc, (∃ s, x = .str s) ∨ ∃ i, x = .int i
  message : ∃ m, e.msg = some (.str m)
  input : ∃ v, e.input = some v
  located : ∀ es l, e.input = some (.map es (some l)) → l.length = es.length

/-- The input of an error can be displayed: it is no loaded mapping that JSON cannot write. -/
def FieldError.Displayable (e : FieldError) : Prop :=
  ∀ es l, e.input = some (.map es (some l)) → JsonWritable (.map es (some l))

/-- Where the report places an error's input, when it does. -/
def placeOf (files : List (String × Option String)) (e : FieldError) : Option String :=
  match locateInput files e with
  | .ok place => place
  | .error _ => none

/-- What the report says of one error, numbered: the path to its field, its message and its
input, and where the input was written when that is known. -/
def errorLines (files : List (String × Option String)) (i : Nat) (e : FieldError) : String :=
  "  " ++ toString i ++ ". Object: " ++ ".".intercalate ((e.loc.getD []).map Value.text) ++ "\n" ++
    "     Message: " ++ (e.msg.getD .none).text ++ "\n" ++
    "     The input used: (" ++ (e.input.getD .none).text ++ ")\n" ++ (placeOf files e).getD ""

section Report

variable {files : List (String × Option String)} {e : FieldError}

theorem text_of_display {v : Value} {s : String} (shown : v.display = .ok s) : v.text = s := by
  simp only [Value.text, shown]

theorem mapM_display_path {loc : List Value} (steps : ∀ x ∈ loc, (∃ s, x = .str s) ∨ ∃ i, x = .int i) :
    loc.mapM Value.display = .ok (loc.map Value.text) := by
  induction loc with
  | nil => rfl
  | cons x rest ih =>
    have shown : x.display = .ok x.text := by
      rcases steps x List.mem_cons_self with ⟨s, rfl⟩ | ⟨i, rfl⟩ <;> rfl
    rw [List.mapM_cons, shown, ok_bind, ih fun y member => steps y (List.mem_cons_of_mem x member)]
    rfl

/-- The position of a reported error's input is always settled, placed or not. -/
theorem locateInput_answers (reported : e.Reported) : locateInput files e = .ok (placeOf files e) := by
  suffices answers : ∃ w, locateInput files e = .ok w by
    obtain ⟨w, found⟩ := answers
    simp only [placeOf, found]
  obtain ⟨loc, path, nonempty, steps⟩ := reported.path
  obtain ⟨v, input⟩ := reported.input
  obtain ⟨k, last⟩ : ∃ k, loc.getLast? = some k := Option.isSome_iff_exists.mp
    (List.getLast?_isSome.mpr nonempty)
  have keyStep := steps k (List.mem_of_getLast? last)
  unfold locateInput
  rw [input]
  cases v with
  | map es locs =>
    cases locs with
    | none => exact ⟨none, rfl⟩
    | some l =>
      by_cases empty : es.isEmpty
      · simp only [empty, if_true]
        exact ⟨none, rfl⟩
      · -- a loaded mapping with keys records where its first key stood
        have sizes := reported.located es l input
        cases l with
        | nil =>
          cases es with
          | nil => exact absurd rfl empty
          | cons _ _ => cases sizes
        | cons first rest =>
          simp only [empty, Bool.false_eq_true, if_false]
          exact ⟨_, rfl⟩
  | int _ | bool _ | str _ =>
    have key : placeable k = true := by rcases keyStep with ⟨s, rfl⟩ | ⟨i, rfl⟩ <;> rfl
    have hashable : k.hashable = true := by rcases keyStep with ⟨s, rfl⟩ | ⟨i, rfl⟩ <;> rfl
    simp only [path, Option.getD_some, last, pure_bind, hashable, Bool.not_true, Bool.false_eq_true,
      if_false]
    refine forIn_bind_answers (fun f _ b => ?_) (fun r => ?_)
    · obtain ⟨fname, content⟩ := f
      cases content with
      | none => exact ⟨_, rfl⟩
      | some text =>
        refine findLine_bind_answers text key rfl _ fun n => ?_
        dsimp only
        split <;> exact ⟨_, rfl⟩
    · split <;> exact ⟨_, rfl⟩
  | _ => exact ⟨none, rfl⟩

theorem reportError_ok (reported : e.Reported) (shown : e.Displayable) (m : String) (placed : Bool)
    (i : Nat) :
    reportError files (m, placed, i) e =
      .ok (m ++ errorLines files (i + 1) e, placed || (placeOf files e).isSome, i + 1) := by
  obtain ⟨loc, path, -, steps⟩ := reported.path
  obtain ⟨msg, message⟩ := reported.message
  obtain ⟨v, input⟩ := reported.input
  obtain ⟨s, written⟩ : ∃ s, v.display = .ok s := (display_ok_iff v).mpr fun es l same => by
    subst same
    exact shown es l input
  have said : (Value.str msg).display = .ok msg := rfl
  unfold reportError errorLines
  simp only [path, message, input, pure_bind, mapM_display_path steps, said, ok_bind,
    locateInput_answers reported, written, Option.getD_some, text_of_display said,
    text_of_display written]
  cases placeOf files e <;> simp only [String.append_assoc, Option.isSome_none, Option.isSome_some,
    Bool.or_false, Bool.or_true] <;> rfl

theorem reportError_fails (reported : e.Reported) (hidden : ¬ e.Displayable)
    (sofar : String × Bool × Nat) : ∃ f, reportError files sofar e = .error f := by
  obtain ⟨loc, path, -, steps⟩ := reported.path
  obtain ⟨msg, message⟩ := reported.message
  obtain ⟨es, l, input, unwritable⟩ :
      ∃ es l, e.input = some (.map es (some l)) ∧ ¬ JsonWritable (.map es (some l)) := by
    simpa [FieldError.Displayable] using hidden
  obtain ⟨f, fails⟩ : ∃ f, (Value.map es (some l)).display = .error f := by
    cases shown : (Value.map es (some l)).display with
    | error f => exact ⟨f, rfl⟩
    | ok s => exact absurd ((display_ok_iff _).mp ⟨s, shown⟩ es l rfl) unwritable
  have said : (Value.str msg).display = .ok msg := rfl
  unfold reportError
  simp only [path, message, input, pure_bind, mapM_display_path steps, said, ok_bind,
    locateInput_answers reported, fails, error_bind]
  exact ⟨f, rfl⟩

theorem foldlM_reportError_ok (errors : List FieldError) (reported : ∀ e ∈ errors, e.Reported)
    (shown : ∀ e ∈ errors, e.Displayable) (m : String) (placed : Bool) (i : Nat) :
    errors.foldlM (reportError files) (m, placed, i) =
      .ok (m ++ String.join ((errors.zipIdx (i + 1)).map fun q => errorLines files q.2 q.1),
        placed || errors.any (fun e => (placeOf files e).isSome), i + errors.length) := by
  induction errors generalizing m placed i with
  | nil =>
    simp only [List.foldlM_nil, List.zipIdx_nil, List.map_nil, String.join_nil, String.append_empty,
      List.any_nil, Bool.or_false, List.length_nil, Nat.add_zero]
    rfl
  | cons e rest ih =>
    rw [List.foldlM_cons, reportError_ok (reported e List.mem_cons_self) (shown e List.mem_cons_self),
      ok_bind, ih (fun x member => reported x (List.mem_cons_of_mem e member))
        (fun x member => shown x (List.mem_cons_of_mem e member))]
    simp only [List.zipIdx_cons, List.map_cons, String.join_cons, String.append_assoc,
      List.any_cons, Bool.or_assoc, List.length_cons]
    rw [Nat.add_right_comm i 1 rest.length, ← Nat.add_assoc i rest.length 1]

theorem foldlM_reportError_fails (errors : List FieldError) (reported : ∀ e ∈ errors, e.Reported)
    (hidden : ∃ e ∈ errors, ¬ e.Displayable) (sofar : String × Bool × Nat) :
    ∃ f, errors.foldlM (reportError files) sofar = .error f := by
  induction errors generalizing sofar with
  | nil =>
    obtain ⟨_, member, _⟩ := hidden
    cases member
  | cons e rest ih =>
    rw [List.foldlM_cons]
    by_cases shown : e.Displayable
    · -- the error is reported and the one that cannot be displayed comes later
      obtain ⟨m, placed, i⟩ := sofar
      rw [reportError_ok (reported e List.mem_cons_self) shown, ok_bind]
      refine ih (fun x member => reported x (List.mem_cons_of_mem e member)) ?_ _
      obtain ⟨x, member, unshown⟩ := hidden
      rcases List.mem_cons.mp member with same | later
      · exact absurd (same ▸ shown) unshown
      · exact ⟨x, later, unshown⟩
    · obtain ⟨f, fails⟩ := reportError_fails (reported e List.mem_cons_self) shown sofar
      rw [fails, error_bind]
      exact ⟨f, rfl⟩

end Report

/-- The report a validation failure is meant to give: the lines of every error, numbered from
one, under a header that counts them, when some input was placed; the plain description
otherwise. -/
def reportText (title : String) (errors : List FieldError) (files : List (String × Option String))
    (plain : String) : String :=
  if errors.any (fun e => (placeOf files e).isSome) then
    toString errors.length ++ " validation errors in " ++ title ++ "\n\n" ++
      String.join ((errors.zipIdx 1).map fun q => errorLines files q.2 q.1)
  else plain

/-- The report of errors with paths, messages and inputs is the intended text exactly when every
input can be displayed; when one cannot (a loaded mapping holding a date, a set, bytes or a
cycle), reporting fails. -/
theorem validationReport_outcome (title : String) (errors : List FieldError)
    (files : List (String × Option String)) (plain : String) (reported : ∀ e ∈ errors, e.Reported) :
    (∀ e ∈ errors, e.Displayable) ∧
        validationReport title errors files plain = .ok (reportText title errors files plain) ∨
      (∃ e ∈ errors, ¬ e.Displayable) ∧ ∃ f, validationReport title errors files plain = .error f := by
  by_cases shown : ∀ e ∈ errors, e.Displayable
  · left
    refine ⟨shown, ?_⟩
    unfold validationReport reportText
    dsimp only
    rw [foldlM_reportError_ok errors reported shown, ok_bind, Bool.false_or]
    rfl
  · right
    obtain ⟨e, member, unshown⟩ : ∃ e ∈ errors, ¬ e.Displayable := by simpa using shown
    obtain ⟨f, fails⟩ := foldlM_reportError_fails errors reported ⟨e, member, unshown⟩
      (toString errors.length ++ " validation errors in " ++ title ++ "\n\n", false, 0)
    refine ⟨⟨e, member, unshown⟩, f, ?_⟩
    unfold validationReport
    dsimp only
    rw [fails, error_bind]

/-- A text input under a list item is reported as intended. -/
theorem validationReport_listedName :
    (∀ e ∈ [FieldError.mk (some [.str "traces", .int 0, .str "name"]) (some (.str "bad name"))
        (some (.str "value"))], e.Reported) ∧
      validationReport "project"
          [⟨some [.str "traces", .int 0, .str "name"], some (.str "bad name"), some (.str "value")⟩]
          [("project.visivo.yml", some "traces:\n  - name: value\n")] "plain" =
        .ok (reportText "project"
          [⟨some [.str "traces", .int 0, .str "name"], some (.str "bad name"), some (.str "value")⟩]
          [("project.visivo.yml", some "traces:\n  - name: value\n")] "plain") := by
  have reported : ∀ e ∈ [FieldError.mk (some [.str "traces", .int 0, .str "name"])
      (some (.str "bad name")) (some (.str "value"))], e.Reported := by
    intro e member
    rw [List.mem_singleton] at member
    subst member
    refine ⟨⟨_, rfl, List.cons_ne_nil _ _, ?_⟩, ⟨_, rfl⟩, ⟨_, rfl⟩, fun _ _ same => by cases same⟩
    simp
  refine ⟨reported, ?_⟩
  rcases validationReport_outcome _ _ [("project.visivo.yml", some "traces:\n  - name: value\n")]
    "plain" reported with ⟨-, reports⟩ | ⟨⟨e, member, unshown⟩, -⟩
  · exact reports
  · -- a text input is displayed as it is
    rw [List.mem_singleton] at member
    subst member
    exact absurd (fun _ _ same => by cases same) unshown

/-- A loaded mapping that holds a date cannot be written as JSON, so the report fails. -/
theorem validationReport_fails_on_datedMapping :
    validationReport "project"
        [⟨some [.str "d"], some (.str "bad"), some (.map [(.str "d", .date ⟨2020, 1, 1⟩)]
          (some [(.str "d", "project.visivo.yml:1", "project.visivo.yml:1")]))⟩]
        [("project.visivo.yml", some "d: 2020-01-01\n")] "plain" =
      .error (Value.notSerializable (.date ⟨2020, 1, 1⟩)) := by
  decide +kernel

end Dashwright.Project
