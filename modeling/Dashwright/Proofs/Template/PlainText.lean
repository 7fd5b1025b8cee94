import Dashwright.Project.Load
import Dashwright.Proofs.Text.Split
import Dashwright.Proofs.Loops

/-!
Rendering text that holds no template syntax. A project file is rendered as a template before
it is read as YAML. A text in which no `{{`, `{%` or `{#` opens and no carriage return stands
is read by the lexer as one piece of data, parsed as one text node and printed as it is; but
the lexer first normalises line ends and drops one final line break. So such a file renders to
its own text without its last line break (`renderTemplate_plain`), and loads as that text does
(`loadProjectGraph_plain`): a block scalar that ends the file loses the line break it keeps
when the text is read as YAML directly.
-/

namespace Dashwright.Template

/-- A text in which no template syntax opens and no carriage return stands. -/
structure PlainText (s : String) : Prop where
  noOpening : ∀ c ∈ ['{', '%', '#'], ¬ ['{', c] <:+: s.toList
  noReturn : '\r' ∉ s.toList

theorem PlainText.of_noBrace {s : String} (noBrace : '{' ∉ s.toList) (noReturn : '\r' ∉ s.toList) :
    PlainText s :=
  ⟨fun _ _ occurs => noBrace (occurs.subset List.mem_cons_self), noReturn⟩

/-- A text without its final line break, when it ends in one. -/
def withoutFinalNewline (s : String) : String :=
  if s.toList.getLast? = some '\n' then String.ofList s.toList.dropLast else s

section Normalising

theorem splitLines_go_of_noReturn {l : List Char} (noReturn : '\r' ∉ l) (cur : List Char)
    (acc : List String) :
    splitLines.go l cur acc = acc.reverse ++ (Text.splitList ['\n'] cur.reverse l).map String.ofList := by
  induction l generalizing cur acc with
  | nil => simp [splitLines.go, Text.splitList_nil]
  | cons c rest ih =>
    have notReturn : c ≠ '\r' := fun same => noReturn (same ▸ List.mem_cons_self)
    have restClear : '\r' ∉ rest := fun member => noReturn (List.mem_cons_of_mem c member)
    by_cases feed : c = '\n'
    · subst feed
      have here : ['\n'] <+: '\n' :: rest := List.prefix_append ['\n'] rest
      rw [splitLines.go.eq_4, ih restClear, Text.splitList_here (List.cons_ne_nil _ _) here]
      simp
    · have absent : ¬ ['\n'] <+: c :: rest := fun starts => feed (List.cons_prefix_cons.mp starts).1.symm
      rw [splitLines.go.eq_5 _ _ _ _ (fun _ same => absurd same notReturn) notReturn feed, ih restClear,
        Text.splitList_past absent, List.reverse_cons]

theorem splitList_append_feed (cur l : List Char) :
    Text.splitList ['\n'] cur (l ++ ['\n']) = Text.splitList ['\n'] cur l ++ [[]] := by
  induction l generalizing cur with
  | nil =>
    have here : ['\n'] <+: ['\n'] := List.prefix_refl _
    rw [List.nil_append, Text.splitList_here (List.cons_ne_nil _ _) here, List.length_singleton,
      List.drop_one, List.tail_cons, Text.splitList_nil, Text.splitList_nil]
    rfl
  | cons x xs ih =>
    by_cases feed : x = '\n'
    · subst feed
      have here : ['\n'] <+: '\n' :: xs := List.prefix_append ['\n'] xs
      have here' : ['\n'] <+: '\n' :: (xs ++ ['\n']) := List.prefix_append ['\n'] _
      rw [List.cons_append, Text.splitList_here (List.cons_ne_nil _ _) here',
        Text.splitList_here (List.cons_ne_nil _ _) here]
      simp [ih]
    · have absent : ∀ ys, ¬ ['\n'] <+: x :: ys := fun _ starts => feed (List.cons_prefix_cons.mp starts).1.symm
      rw [List.cons_append, Text.splitList_past (absent _), Text.splitList_past (absent _), ih]

theorem splitList_append_other (cur l : List Char) {x : Char} (other : x ≠ '\n') :
    ∃ parts last, Text.splitList ['\n'] cur (l ++ [x]) = parts ++ [last ++ [x]] := by
  induction l generalizing cur with
  | nil =>
    have absent : ¬ ['\n'] <+: [x] := fun starts => other (List.cons_prefix_cons.mp starts).1.symm
    rw [List.nil_append, Text.splitList_past absent, Text.splitList_nil]
    exact ⟨[], cur, rfl⟩
  | cons y ys ih =>
    by_cases feed : y = '\n'
    · subst feed
      have here : ['\n'] <+: '\n' :: (ys ++ [x]) := List.prefix_append ['\n'] _
      obtain ⟨parts, last, split⟩ := ih []
      rw [List.cons_append, Text.splitList_here (List.cons_ne_nil _ _) here]
      refine ⟨cur :: parts, last, ?_⟩
      simp [split]
    · have absent : ¬ ['\n'] <+: y :: (ys ++ [x]) := fun starts => feed (List.cons_prefix_cons.mp starts).1.symm
      rw [List.cons_append, Text.splitList_past absent]
      exact ih (cur ++ [y])

theorem intercalate_feedParts (l : List Char) :
    "\n".intercalate ((Text.splitList ['\n'] [] l).map String.ofList) = String.ofList l := by
  apply String.ext
  rw [String.toList_intercalate, List.map_map]
  have back : String.toList ∘ String.ofList = id := funext fun _ => String.toList_ofList
  rw [back, List.map_id, String.toList_ofList]
  rw [Text.intercalate_splitList_char, List.nil_append, String.toList_ofList]
  -- every character stands for itself, the line feed included
  have each : (fun c => if c = '\n' then ['\n'] else [c]) = fun c => [c] := by
    funext c
    by_cases feed : c = '\n' <;> simp [feed]
  rw [each, List.flatMap_singleton']

theorem normalizeSource_of_noReturn {s : String} (noReturn : '\r' ∉ s.toList) :
    normalizeSource s = withoutFinalNewline s := by
  unfold normalizeSource splitLines withoutFinalNewline
  dsimp only
  rw [splitLines_go_of_noReturn noReturn, List.reverse_nil, List.reverse_nil, List.nil_append]
  rcases List.eq_nil_or_concat s.toList with empty | ⟨m, x, ending⟩
  · have blank : s = "" := String.toList_eq_nil_iff.mp empty
    rw [empty, Text.splitList_nil, blank]
    rfl
  · rw [List.concat_eq_append] at ending
    rw [ending]
    by_cases feed : x = '\n'
    · subst feed
      rw [splitList_append_feed, List.map_append]
      simp [intercalate_feedParts]
    · obtain ⟨parts, last, split⟩ := splitList_append_other [] m feed
      have kept : ((Text.splitList ['\n'] [] (m ++ [x])).map String.ofList).getLast? ≠ some "" := by
        rw [split]
        simp
      have notFeed : (m ++ [x]).getLast? ≠ some '\n' := by simp [feed]
      rw [if_neg (by simpa using kept), if_neg notFeed, intercalate_feedParts, ← ending,
        String.ofList_toList]

end Normalising

section Lexing

theorem neighbours_occur {l : List Char} {a b : Char} {p : Nat} (first : l[p]? = some a)
    (second : l[p + 1]? = some b) : [a, b] <:+: l := by
  induction l generalizing p with
  | nil => simp at first
  | cons x xs ih =>
    cases p with
    | zero =>
      cases xs with
      | nil => simp at second
      | cons y ys =>
        simp only [List.getElem?_cons_zero, Option.some.injEq, Nat.zero_add, List.getElem?_cons_succ]
          at first second
        subst first second
        exact (List.prefix_append [x, y] ys).isInfix
    | succ p =>
      exact (ih first second).trans (List.suffix_cons x xs).isInfix

variable {src : Array Char}

theorem rawTagAt_of_noBlock {p : Nat} (noBlock : src[p + 1]? ≠ some '%') (word : String) (plus : Bool) :
    rawTagAt src p word plus = none := by
  have unopened : startsAt src p "\x7b%" = false := by simp [startsAt, noBlock]
  simp [rawTagAt, unopened]

theorem nextOpening_go_of_clear (clear : ∀ p, src[p]? = some '{' → ∀ c ∈ ['{', '%', '#'], src[p + 1]? ≠ some c)
    (fuel p : Nat) : nextOpening.go src fuel p = none := by
  induction fuel generalizing p with
  | zero => rfl
  | succ fuel ih =>
    rw [nextOpening.go.eq_2]
    by_cases brace : src[p]? = some '{'
    · have noBlock := clear p brace '%' (by simp)
      simp only [brace, bne_self_eq_false, Bool.false_eq_true, if_false, rawTagAt_of_noBlock noBlock]
      split
      · rfl
      · split
        · next k chosen =>
          -- the character after the brace opens nothing
          exfalso
          split at chosen
          · exact clear p brace '{' (by simp) (by assumption)
          · exact clear p brace '%' (by simp) (by assumption)
          · exact clear p brace '#' (by simp) (by assumption)
          · cases chosen
        · exact ih (p + 1)
    · simp [brace, ih]

theorem tokenizeSource_of_clear (clear : ∀ p, src[p]? = some '{' → ∀ c ∈ ['{', '%', '#'], src[p + 1]? ≠ some c) :
    tokenizeSource src = if src.size = 0 then [.eof] else [.data (slice src 0 src.size), .eof] := by
  have none : nextOpening src 0 = none := nextOpening_go_of_clear clear _ _
  unfold tokenizeSource
  rw [tokenizeSource.go.eq_2]
  by_cases empty : src.size = 0
  · simp [empty]
  · simp [empty, none]

end Lexing

theorem withoutFinalNewline_begins (s : String) : (withoutFinalNewline s).toList <+: s.toList := by
  unfold withoutFinalNewline
  split
  · rw [String.toList_ofList]
    exact List.dropLast_prefix _
  · exact List.prefix_refl _

/-- A plain text, without its final line break, is read as one piece of data, or as nothing
when that leaves it empty. -/
theorem tokenize_plain {s : String} (plain : PlainText s) :
    tokenize s = if withoutFinalNewline s = "" then [.eof] else [.data (withoutFinalNewline s), .eof] := by
  unfold tokenize
  rw [normalizeSource_of_noReturn plain.noReturn]
  have clear : ∀ p, (withoutFinalNewline s).toList.toArray[p]? = some '{' → ∀ c ∈ ['{', '%', '#'],
      (withoutFinalNewline s).toList.toArray[p + 1]? ≠ some c := by
    intro p brace c opening next
    simp only [List.getElem?_toArray] at brace next
    exact plain.noOpening c opening ((neighbours_occur brace next).trans (withoutFinalNewline_begins s).isInfix)
  rw [tokenizeSource_of_clear clear]
  simp [slice, String.toList_eq_nil_iff]

section Printing

variable (host : Host) (context : List (String × Term))

theorem execNodes_texts (ts : List String) (f : Nat) (enough : ts.length < f) (st : RenderState) :
    (execNodes f host (ts.map .text)).run st = .ok ((), { st with out := ts.reverse ++ st.out }) := by
  induction ts generalizing f st with
  | nil =>
    obtain ⟨g, rfl⟩ : ∃ g, f = g + 1 := ⟨f - 1, by simp at enough; omega⟩
    rfl
  | cons t rest ih =>
    obtain ⟨g, rfl⟩ : ∃ g, f = g + 2 := ⟨f - 2, by simp at enough; omega⟩
    have printed : (execNode (g + 1) host (.text t)).run st = .ok ((), { st with out := t :: st.out }) := rfl
    rw [List.map_cons, execNodes, StateT.run_bind, printed, ok_bind, ih (g + 1) (by simp at enough; omega)]
    simp

theorem checkNodes_texts (soft : Bool) (ts : List String) (f : Nat) :
    checkNodes f soft (ts.map .text) = .ok [] := by
  induction ts generalizing f with
  | nil => cases f <;> rfl
  | cons t rest ih =>
    cases f with
    | zero => rfl
    | succ f =>
      rw [List.map_cons, checkNodes, ih]
      cases f <;> rfl

theorem checkTemplate_texts (ts : List String) : checkTemplate (ts.map .text) = .ok () := by
  unfold checkTemplate
  dsimp only
  rw [checkNodes_texts, List.range_eq_range']
  rfl

theorem foldTemplate_texts (ts : List String) : foldTemplate (ts.map .text) = ts.map .text := by
  unfold foldTemplate
  rw [show (10000 : Nat) = 9999 + 1 from rfl, foldNodes, List.map_map]
  rfl

theorem renderTemplate_of_texts {source : String} {ts : List String}
    (parsed : parseTemplate source = .ok (ts.map .text)) (short : ts.length < 10000) :
    renderTemplate host context source = .ok (String.join ts) := by
  unfold renderTemplate
  rw [parsed]
  simp only [ok_bind, foldTemplate_texts, checkTemplate_texts]
  rw [execNodes_texts host ts 10000 short, ok_bind]
  simp only [List.append_nil, List.reverse_reverse]
  rfl

/-- A plain text renders to itself without its final line break. -/
theorem renderTemplate_plain {s : String} (plain : PlainText s) :
    renderTemplate host context s = .ok (withoutFinalNewline s) := by
  by_cases empty : withoutFinalNewline s = ""
  · have parsed : parseTemplate s = .ok (([] : List String).map .text) := by
      unfold parseTemplate
      rw [tokenize_plain plain, if_pos empty]
      rfl
    rw [renderTemplate_of_texts host context parsed (by decide), empty]
    rfl
  · have parsed : parseTemplate s = .ok ([withoutFinalNewline s].map .text) := by
      unfold parseTemplate
      rw [tokenize_plain plain, if_neg empty]
      rfl
    rw [renderTemplate_of_texts host context parsed (by simp)]
    simp

end Printing

end Dashwright.Template

namespace Dashwright.Project

open Template

theorem universalNewlines_go_of_noReturn {l : List Char} (noReturn : '\r' ∉ l) (acc : List Char) :
    Text.universalNewlines.go l acc = acc.reverse ++ l := by
  induction l generalizing acc with
  | nil => simp [Text.universalNewlines.go]
  | cons c rest ih =>
    have notReturn : c ≠ '\r' := fun same => noReturn (same ▸ List.mem_cons_self)
    have restClear : '\r' ∉ rest := fun member => noReturn (List.mem_cons_of_mem c member)
    rw [Text.universalNewlines.go.eq_4 _ _ _ (fun _ same => absurd same notReturn) notReturn,
      ih restClear]
    simp

theorem universalNewlines_of_noReturn {s : String} (noReturn : '\r' ∉ s.toList) :
    Text.universalNewlines s = s := by
  unfold Text.universalNewlines
  rw [universalNewlines_go_of_noReturn noReturn, List.reverse_nil, List.nil_append, String.ofList_toList]

/-- A project file that holds no template syntax and no carriage return is read as its own
text without its final line break. -/
theorem loadProjectGraph_plain (env : Environment) (file s : String) (plain : PlainText s) :
    loadProjectGraph env file s = Yaml.loadProjectGraph file (withoutFinalNewline s) := by
  unfold loadProjectGraph renderProjectText
  rw [universalNewlines_of_noReturn plain.noReturn, renderTemplate_plain _ _ plain, ok_bind]

/-- A file ending in a block scalar is read without the block's last line break. -/
theorem loadProjectGraph_plain_blockScalar :
    PlainText "a: |\n  x\n" ∧
      loadProjectGraph .empty "project.visivo.yml" "a: |\n  x\n" =
        Yaml.loadProjectGraph "project.visivo.yml" "a: |\n  x" := by
  have plain : PlainText "a: |\n  x\n" := .of_noBrace (by decide) (by decide)
  have dropped : withoutFinalNewline "a: |\n  x\n" = "a: |\n  x" := by decide
  exact ⟨plain, by rw [loadProjectGraph_plain _ _ _ plain, dropped]⟩

/-- Read as a project file, the block scalar loses the line break it keeps as plain YAML. -/
theorem finalBlockScalar_loses_newline :
    (match loadProjectFile .empty "project.visivo.yml" "a: |\n  x\n" with
      | .ok v => Value.equal v (.record [("a", .str "x")])
      | .error _ => false) = true ∧
    (match Yaml.loadValue "a: |\n  x\n" with
      | .ok v => Value.equal v (.record [("a", .str "x\n")])
      | .error _ => false) = true := by
  decide +kernel

end Dashwright.Project
