import Mathlib.Data.List.Basic
import NamedQuery.Settings.EnvFile

/-!
# Lines of a file

Every line that is read, and every line that is skipped, leaves less of the text, so the bound on
the number of lines is never met.  A variable that is written on a line as it is, is read back from
it, and what follows the line is read as if it stood alone.
-/

namespace NamedQuery.EnvFile

open NamedQuery.Text

/-! ## What a line leaves -/

/-- What a step leaves, whether it succeeds or fails. -/
def Step.rest {α : Type} : Step α → List Char
  | .ok r => r.2
  | .error rest => rest

theorem Step.rest_bind_suffix {α β : Type} {s : Step α} {next : α × List Char → Step β}
    {cs : List Char} (hs : Step.rest s <:+ cs) (hnext : ∀ r, Step.rest (next r) <:+ r.2) :
    Step.rest (Except.bind s next) <:+ cs := by
  cases s with
  | error rest => exact hs
  | ok r => exact (hnext r).trans hs

theorem skipExport_suffix (cs : List Char) : skipExport cs <:+ cs := by
  rw [skipExport]
  split
  · exact (List.dropWhile_suffix isInline).trans (List.drop_suffix _ cs)
  · exact List.suffix_rfl

theorem quotedText_suffix {quote : Char} {cs : List Char} {r : List Char × List Char}
    (hr : quotedText quote cs = some r) : r.2 <:+ cs := by
  fun_induction quotedText quote cs generalizing r with
  | case1 => cases hr
  | case2 c rest ih =>
      obtain ⟨inner, hinner, rfl⟩ := Option.map_eq_some_iff.mp hr
      exact ((ih hinner).trans (List.suffix_cons c rest)).trans (List.suffix_cons _ _)
  | case3 rest =>
      obtain rfl := Option.some.inj hr
      exact List.suffix_cons _ rest
  | case4 => cases hr
  | case5 c rest _ _ _ ih =>
      obtain ⟨inner, hinner, rfl⟩ := Option.map_eq_some_iff.mp hr
      exact (ih hinner).trans (List.suffix_cons c rest)

theorem value_suffix (afterBlank : Bool) (cs : List Char) :
    (value afterBlank cs).rest <:+ cs := by
  fun_cases value afterBlank cs with
  | case1 => exact List.suffix_rfl
  | case2 c rest _ text after hquoted =>
      exact (quotedText_suffix hquoted).trans (List.suffix_cons c rest)
  | case3 => exact List.suffix_rfl
  | case4 => exact List.drop_suffix _ _

theorem assigned_suffix (cs : List Char) : (assigned cs).rest <:+ cs := by
  fun_cases assigned cs with
  | case1 rest =>
      have hvalue := value_suffix (rest.head?.any isInline) (rest.dropWhile isInline)
      have hbehind := hvalue.trans (List.dropWhile_suffix isInline)
      have hrest := hbehind.trans (List.suffix_cons '=' rest)
      cases hread : value (rest.head?.any isInline) (rest.dropWhile isInline) with
      | error after =>
          rw [hread] at hrest
          exact hrest
      | ok r =>
          rw [hread] at hrest
          exact hrest
  | case2 => exact List.suffix_rfl

theorem name_suffix (cs : List Char) : (name cs).rest <:+ cs := by
  fun_cases name cs with
  | case1 => exact List.suffix_rfl
  | case2 rest content first inner quote after hbehind hcontent =>
      have hrest : after <:+ rest :=
        (hbehind ▸ List.suffix_cons quote after).trans (List.drop_suffix _ rest)
      exact hrest.trans (List.suffix_cons _ rest)
  | case3 => exact List.suffix_rfl
  | case4 => exact List.suffix_rfl
  | case5 => exact List.drop_suffix _ _

theorem skipComment_suffix (cs : List Char) : skipComment cs <:+ cs := by
  rw [skipComment]
  split
  · next rest hcomment =>
    have hbehind : rest <:+ cs :=
      (hcomment ▸ List.suffix_cons '#' rest).trans (List.dropWhile_suffix isInline)
    exact (List.dropWhile_suffix _).trans hbehind
  · exact List.suffix_rfl

theorem lineEnd_suffix (cs : List Char) : (lineEnd cs).rest <:+ cs := by
  fun_cases lineEnd cs with
  | case1 => exact List.nil_suffix
  | case2 c rest hcs =>
      exact (hcs ▸ List.suffix_cons c rest).trans (List.dropWhile_suffix isInline)
  | case3 => exact List.suffix_rfl

/-- A name that is read takes something, unless a comment stands there. -/
theorem length_of_name {cs : List Char} (hcomment : cs.head? ≠ some '#')
    (r : Option (List Char) × List Char) : name cs = .ok r → r.2.length < cs.length := by
  fun_cases name cs with
  | case1 => exact absurd rfl hcomment
  | case2 rest content first inner quote after hbehind hcontent =>
      rintro ⟨⟩
      have hrest : after <:+ rest :=
        (hbehind ▸ List.suffix_cons quote after).trans (List.drop_suffix _ rest)
      exact Nat.lt_succ_of_le hrest.length_le
  | case3 => nofun
  | case4 => nofun
  | case5 cs _ _ run hrun =>
      rintro ⟨⟩
      have htaken : 0 < run.length := List.length_pos_iff.mpr (mt List.isEmpty_iff.mpr hrun)
      have hlength : run.length ≤ cs.length := (List.takeWhile_prefix _).length_le
      rw [List.length_drop]
      omega

/-- What is read behind the name of a line. -/
def afterName (named : Option (List Char) × List Char) :
    Except (List Char) (Option Line × List Char) := do
  let (value, cs) ← assigned (named.2.dropWhile isInline)
  let (_, cs) ← lineEnd (skipComment cs)
  .ok (named.1.map fun n => ⟨n, value⟩, cs)

theorem line_eq {cs : List Char} (hcs : cs.dropWhile isBlank ≠ []) :
    line cs = Except.bind (name (skipExport (cs.dropWhile isBlank))) afterName := by
  rw [line, if_neg (mt List.isEmpty_iff.mp hcs)]
  rfl

theorem afterName_suffix (named : Option (List Char) × List Char) :
    Step.rest (afterName named) <:+ named.2 := by
  refine Step.rest_bind_suffix
    ((assigned_suffix _).trans (List.dropWhile_suffix isInline)) fun valued => ?_
  refine Step.rest_bind_suffix ((lineEnd_suffix _).trans (skipComment_suffix _)) fun ended => ?_
  exact List.suffix_rfl

theorem afterName_comment (cs : List Char) :
    Step.rest (afterName (none, '#' :: cs)) <:+ cs := by
  have hcomment : skipComment ('#' :: cs) = cs.dropWhile fun c => !isLineEnd c := rfl
  have hend := (lineEnd_suffix (skipComment ('#' :: cs))).trans
    (hcomment ▸ List.dropWhile_suffix _)
  exact Step.rest_bind_suffix hend fun ended => List.suffix_rfl

theorem line_suffix (cs : List Char) : Step.rest (line cs) <:+ cs := by
  by_cases hcs : cs.dropWhile isBlank = []
  · rw [line, if_pos (List.isEmpty_iff.mpr hcs)]
    exact List.nil_suffix
  · have hstart : skipExport (cs.dropWhile isBlank) <:+ cs :=
      (skipExport_suffix _).trans (List.dropWhile_suffix isBlank)
    rw [line_eq hcs]
    exact Step.rest_bind_suffix ((name_suffix _).trans hstart) afterName_suffix

theorem length_of_bind_afterName {cs : List Char} {r : Option Line × List Char}
    (hread : Except.bind (name cs) afterName = .ok r) : r.2.length < cs.length := by
  by_cases hcomment : cs.head? = some '#'
  · obtain ⟨rest, rfl⟩ := List.head?_eq_some_iff.mp hcomment
    have hafter : afterName (none, '#' :: rest) = .ok r := hread
    have hrest := afterName_comment rest
    rw [hafter] at hrest
    exact Nat.lt_succ_of_le hrest.length_le
  · cases hname : name cs with
    | error after =>
        rw [hname] at hread
        cases hread
    | ok named =>
        rw [hname] at hread
        have hafter : afterName named = .ok r := hread
        have hrest := afterName_suffix named
        rw [hafter] at hrest
        exact Nat.lt_of_le_of_lt hrest.length_le (length_of_name hcomment named hname)

/-- A line that is read takes something. -/
theorem length_of_line {cs : List Char} (hcs : cs ≠ []) {r : Option Line × List Char}
    (hline : line cs = .ok r) : r.2.length < cs.length := by
  by_cases hblank : cs.dropWhile isBlank = []
  · rw [line, if_pos (List.isEmpty_iff.mpr hblank)] at hline
    obtain rfl := Except.ok.inj hline
    exact List.length_pos_iff.mpr hcs
  · have hstart : skipExport (cs.dropWhile isBlank) <:+ cs :=
      (skipExport_suffix _).trans (List.dropWhile_suffix isBlank)
    rw [line_eq hblank] at hline
    exact Nat.lt_of_lt_of_le (length_of_bind_afterName hline) hstart.length_le

theorem lines_of_some {fuel : Nat} {cs : List Char} {l : Line} {rest : List Char} (hcs : cs ≠ [])
    (hline : line cs = .ok (some l, rest)) : lines (fuel + 1) cs = l :: lines fuel rest := by
  rw [lines, hline]
  exact hcs

theorem lines_of_none {fuel : Nat} {cs rest : List Char} (hcs : cs ≠ [])
    (hline : line cs = .ok (none, rest)) : lines (fuel + 1) cs = lines fuel rest := by
  rw [lines, hline]
  exact hcs

theorem lines_of_error {fuel : Nat} {cs rest : List Char} (hcs : cs ≠ [])
    (hline : line cs = .error rest) :
    lines (fuel + 1) cs = lines fuel ((rest.dropWhile fun c => !isLineEnd c).drop 1) := by
  rw [lines, hline]
  exact hcs

/-- The number of lines is never bounded. -/
theorem lines_of_length_lt {fuel more : Nat} {cs : List Char} (hfuel : cs.length < fuel)
    (hmore : cs.length < more) : lines fuel cs = lines more cs := by
  induction fuel generalizing more cs with
  | zero => exact absurd hfuel (Nat.not_lt_zero _)
  | succ fuel ih =>
      cases more with
      | zero => exact absurd hmore (Nat.not_lt_zero _)
      | succ more =>
          by_cases hcs : cs = []
          · rw [hcs]
            rfl
          · have hnext {after : List Char} (hafter : after.length < cs.length) :
                lines fuel after = lines more after := by
              apply ih <;> omega
            match hline : line cs with
            | .ok (some l, after) =>
                rw [lines_of_some hcs hline, lines_of_some hcs hline,
                  hnext (length_of_line hcs hline)]
            | .ok (none, after) =>
                rw [lines_of_none hcs hline, lines_of_none hcs hline,
                  hnext (length_of_line hcs hline)]
            | .error after =>
                have hsuffix := line_suffix cs
                rw [hline] at hsuffix
                have hlength : after.length ≤ cs.length := hsuffix.length_le
                have hskipped := (List.dropWhile_suffix (l := after) (!isLineEnd ·)).length_le
                have hpositive := List.length_pos_iff.mpr hcs
                have hshorter : ((after.dropWhile (!isLineEnd ·)).drop 1).length < cs.length := by
                  rw [List.length_drop]
                  omega
                rw [lines_of_error hcs hline, lines_of_error hcs hline, hnext hshorter]

/-- The lines that a text gives. -/
def linesOf (text : String) : List Line :=
  let cs := dropOrderMark (normalizeLines text.toList)
  lines (cs.length + 1) cs

theorem lines_of_line {cs : List Char} {l : Line} {rest : List Char} (hcs : cs ≠ [])
    (hline : line cs = .ok (some l, rest)) :
    lines (cs.length + 1) cs = l :: lines (rest.length + 1) rest := by
  rw [lines_of_some hcs hline,
    lines_of_length_lt (length_of_line hcs hline) (Nat.lt_succ_self rest.length)]

/-! ## Plain lines -/

/-- A character that ends no name, wherever it stands in one, and begins nothing else. -/
@[mk_iff]
structure InName (c : Char) : Prop where
  ne_equals : c ≠ '='
  ne_hash : c ≠ '#'
  ne_quote : c ≠ '\''
  ne_mark : c ≠ '\uFEFF'
  not_blank : isBlank c = false

/-- A character that a value may have anywhere. -/
@[mk_iff]
structure InValue (c : Char) : Prop where
  ne_single : c ≠ '\''
  ne_double : c ≠ '"'
  not_blank : isBlank c = false

/-- A variable that can be written on a line as it is, without quotes, blanks and comments. -/
structure IsPlain (v : String × String) : Prop where
  name_ne_nil : v.1.toList ≠ []
  name : ∀ c ∈ v.1.toList, InName c
  value : ∀ c ∈ v.2.toList, InValue c

theorem IsPlain.exists_name {v : String × String} (hv : IsPlain v) :
    ∃ c tail, v.1.toList = c :: tail ∧ InName c := by
  obtain ⟨c, tail, hname⟩ := List.exists_cons_of_ne_nil hv.name_ne_nil
  exact ⟨c, tail, hname, hv.name c (hname ▸ List.mem_cons_self)⟩

/-- The variable on a line of its own. -/
def written (v : String × String) : String := v.1 ++ "=" ++ v.2 ++ "\n"

def asLine (v : String × String) : Line := ⟨v.1.toList, some v.2.toList⟩

theorem dropWhile_of_head {p : Char → Bool} {cs : List Char}
    (hhead : ∀ c ∈ cs.head?, p c = false) : cs.dropWhile p = cs := by
  cases cs with
  | nil => rfl
  | cons c rest => rw [List.dropWhile_cons, hhead c rfl, if_neg Bool.false_ne_true]

theorem isInline_eq_false {c : Char} (hc : isBlank c = false) : isInline c = false := by
  rw [isInline, hc, Bool.false_and]

theorem ne_of_not_blank {c d : Char} (hc : isBlank c = false) (hd : isBlank d = true) : c ≠ d := by
  rintro rfl
  rw [hc] at hd
  exact Bool.false_ne_true hd

theorem isLineEnd_eq_false {c : Char} (hc : isBlank c = false) : isLineEnd c = false := by
  rw [isLineEnd, decide_eq_false (ne_of_not_blank hc rfl), decide_eq_false (ne_of_not_blank hc rfl),
    Bool.false_or]

theorem beforeComment_of_no_blank {cs : List Char} (hcs : ∀ c ∈ cs, isBlank c = false) :
    beforeComment false cs = cs := by
  induction cs with
  | nil => rfl
  | cons c rest ih =>
      have hrest := ih fun d hd => hcs d (List.mem_cons_of_mem c hd)
      rw [beforeComment, Bool.false_and, if_neg Bool.false_ne_true, hcs c List.mem_cons_self, hrest]

theorem dropBlankEnd_of_no_blank {cs : List Char} (hcs : ∀ c ∈ cs, isBlank c = false) :
    dropBlankEnd cs = cs := by
  have hback : cs.reverse.dropWhile isBlank = cs.reverse :=
    dropWhile_of_head fun c hc => hcs c (List.mem_reverse.mp (List.mem_of_mem_head? hc))
  rw [dropBlankEnd, hback, List.reverse_reverse]

section

variable {v : String × String} (hv : IsPlain v) (rest : List Char)

include hv

theorem name_of_plain :
    name (v.1.toList ++ '=' :: rest) = .ok (some v.1.toList, '=' :: rest) := by
  have hrun : (v.1.toList ++ '=' :: rest).takeWhile
      (fun c => !(c = '=' || c = '#' || isBlank c)) = v.1.toList := by
    rw [List.takeWhile_append_of_pos, List.takeWhile_cons_of_neg, List.append_nil]
    · simp
    · intro c hc
      have hin := hv.name c hc
      simp [hin.ne_equals, hin.ne_hash, hin.not_blank]
  obtain ⟨c, tail, hname, hc⟩ := hv.exists_name
  rw [name, hrun, if_neg (mt List.isEmpty_iff.mp hv.name_ne_nil), List.drop_left]
  · intro other hother
    rw [hname] at hother
    exact hc.ne_hash (List.cons.inj hother).1
  · intro other hother
    rw [hname] at hother
    exact hc.ne_quote (List.cons.inj hother).1

/-- A name that begins with the word stands before an equals sign, and not before a blank. -/
theorem skipExport_of_plain :
    skipExport (v.1.toList ++ '=' :: rest) = v.1.toList ++ '=' :: rest := by
  refine if_neg fun hexport => ?_
  obtain ⟨hword, hinline⟩ := Bool.and_eq_true_iff.mp hexport
  rw [decide_eq_true_iff] at hword
  rw [List.head?_drop, Option.any_eq_true] at hinline
  obtain ⟨c, hc, hinline⟩ := hinline
  rcases Nat.lt_trichotomy v.1.toList.length "export".toList.length with hless | hequal | hmore
  · have hequals : '=' ∈ (v.1.toList ++ '=' :: rest).take "export".toList.length := by
      apply List.mem_of_getElem? (i := v.1.toList.length)
      rw [List.getElem?_take_of_lt hless, List.getElem?_append_right (Nat.le_refl _), Nat.sub_self]
      rfl
    rw [hword] at hequals
    exact absurd hequals (by decide)
  · rw [← hequal, List.getElem?_append_right (Nat.le_refl _), Nat.sub_self] at hc
    obtain rfl : '=' = c := Option.some.inj hc
    cases hinline
  · rw [List.getElem?_append_left hmore] at hc
    have hname := hv.name c (List.mem_of_getElem? hc)
    rw [isInline_eq_false hname.not_blank] at hinline
    cases hinline

/-- Where a plain value or the end of its line begins, there is no quote and no blank. -/
theorem head_of_plain {c : Char} (hc : c ∈ (v.2.toList ++ '\n' :: rest).head?) :
    c ≠ '\'' ∧ c ≠ '"' ∧ isInline c = false := by
  cases hvalue : v.2.toList with
  | nil =>
      rw [hvalue] at hc
      obtain rfl : '\n' = c := Option.mem_some_iff.mp hc
      decide
  | cons first tail =>
      rw [hvalue] at hc
      obtain rfl : first = c := Option.mem_some_iff.mp hc
      have hin := hv.value first (hvalue ▸ List.mem_cons_self)
      exact ⟨hin.ne_single, hin.ne_double, isInline_eq_false hin.not_blank⟩

theorem value_of_plain :
    value false (v.2.toList ++ '\n' :: rest) = .ok (v.2.toList, '\n' :: rest) := by
  have hrun : (v.2.toList ++ '\n' :: rest).takeWhile (fun c => !isLineEnd c) = v.2.toList := by
    rw [List.takeWhile_append_of_pos, List.takeWhile_cons_of_neg, List.append_nil]
    · decide
    · intro c hc
      rw [isLineEnd_eq_false (hv.value c hc).not_blank, Bool.not_false]
  have hblank (c : Char) (hc : c ∈ v.2.toList) : isBlank c = false := (hv.value c hc).not_blank
  obtain ⟨c, after, hvalue⟩ : ∃ c after, v.2.toList ++ '\n' :: rest = c :: after :=
    List.exists_cons_of_ne_nil (List.append_ne_nil_of_right_ne_nil _ (List.cons_ne_nil _ _))
  obtain ⟨hsingle, hdouble, -⟩ := head_of_plain hv rest (hvalue ▸ rfl : c ∈ _)
  have hquote : (decide (c = '\'') || decide (c = '"')) = false := by
    rw [decide_eq_false hsingle, decide_eq_false hdouble, Bool.false_or]
  rw [hvalue, value, hquote, if_neg Bool.false_ne_true, ← hvalue, hrun]
  simp only [beforeComment_of_no_blank hblank, dropBlankEnd_of_no_blank hblank, List.drop_left]

theorem assigned_of_plain :
    assigned ('=' :: (v.2.toList ++ '\n' :: rest)) = .ok (some v.2.toList, '\n' :: rest) := by
  have hopen (c : Char) (hc : c ∈ (v.2.toList ++ '\n' :: rest).head?) : isInline c = false :=
    (head_of_plain hv rest hc).2.2
  have hblank : (v.2.toList ++ '\n' :: rest).head?.any isInline = false := by
    rw [Option.any_eq_false]
    intro c hc
    rw [hopen c hc]
  rw [assigned, hblank, dropWhile_of_head hopen, value_of_plain hv]
  rfl

theorem line_of_plain :
    line (v.1.toList ++ '=' :: (v.2.toList ++ '\n' :: rest)) = .ok (some (asLine v), rest) := by
  obtain ⟨c, tail, hname, hc⟩ := hv.exists_name
  have hblank : ∀ d ∈ (v.1.toList ++ '=' :: (v.2.toList ++ '\n' :: rest)).head?,
      isBlank d = false := by
    rw [hname]
    rintro d ⟨⟩
    exact hc.not_blank
  have hstart := dropWhile_of_head hblank
  rw [line_eq (by rw [hstart, hname]; exact List.cons_ne_nil _ _), hstart, skipExport_of_plain hv,
    name_of_plain hv]
  have hequals : ('=' :: (v.2.toList ++ '\n' :: rest)).dropWhile isInline =
      '=' :: (v.2.toList ++ '\n' :: rest) := rfl
  rw [Except.bind, afterName, hequals, assigned_of_plain hv]
  rfl

end

theorem normalizeLines_append {front : List Char} (hfront : ∀ c ∈ front, c ≠ '\r')
    (back : List Char) : normalizeLines (front ++ back) = front ++ normalizeLines back := by
  induction front with
  | nil => rfl
  | cons c rest ih =>
      have hc := hfront c List.mem_cons_self
      have hrest := ih fun d hd => hfront d (List.mem_cons_of_mem c hd)
      rw [List.cons_append, normalizeLines, if_neg hc, hrest, List.cons_append]
      exact fun _ hreturn _ => hc hreturn

theorem dropOrderMark_of_head {cs : List Char} (hmark : cs.head? ≠ some '\uFEFF') :
    dropOrderMark cs = cs := by
  fun_cases dropOrderMark cs with
  | case1 => exact absurd rfl hmark
  | case2 => rfl

theorem head?_normalizeLines {cs : List Char} (hmark : cs.head? ≠ some '\uFEFF') :
    (normalizeLines cs).head? ≠ some '\uFEFF' := by
  fun_cases normalizeLines cs with
  | case1 => simp
  | case2 c rest =>
      have hc : c ≠ '\uFEFF' := fun heq => hmark (congrArg some heq)
      rw [List.head?_cons]
      intro heq
      split at heq
      · exact absurd (Option.some.inj heq) (by decide)
      · exact hc (Option.some.inj heq)
  | case3 => simp

theorem head?_of_plain {v : String × String} (hv : IsPlain v) (back : List Char) :
    (v.1.toList ++ back).head? ≠ some '\uFEFF' := by
  obtain ⟨c, tail, hname, hc⟩ := hv.exists_name
  rw [hname]
  exact fun heq => hc.ne_mark (Option.some.inj heq)

/-- A plain line in front of a text is read as its variable, and the text as it was. -/
theorem linesOf_written {v : String × String} (hv : IsPlain v) {text : String}
    (hmark : text.toList.head? ≠ some '\uFEFF') :
    linesOf (written v ++ text) = asLine v :: linesOf text := by
  have hwritten : (written v ++ text).toList =
      (v.1.toList ++ '=' :: (v.2.toList ++ ['\n'])) ++ text.toList := by
    simp [written]
  have hreturn : ∀ c ∈ v.1.toList ++ '=' :: (v.2.toList ++ ['\n']), c ≠ '\r' := by
    have hname (c : Char) (hc : c ∈ v.1.toList) : c ≠ '\r' :=
      ne_of_not_blank (hv.name c hc).not_blank rfl
    have hvalue (c : Char) (hc : c ∈ v.2.toList) : c ≠ '\r' :=
      ne_of_not_blank (hv.value c hc).not_blank rfl
    simp only [List.forall_mem_append, List.forall_mem_cons]
    exact ⟨hname, by decide, hvalue, by decide, nofun⟩
  have hfirst : ((v.1.toList ++ '=' :: (v.2.toList ++ ['\n'])) ++
      normalizeLines text.toList).head? ≠ some '\uFEFF' := by
    rw [List.append_assoc]
    exact head?_of_plain hv _
  rw [linesOf, linesOf, hwritten, normalizeLines_append hreturn, dropOrderMark_of_head hfirst,
    dropOrderMark_of_head (head?_normalizeLines hmark), List.append_assoc, List.cons_append,
    List.append_assoc, List.singleton_append]
  exact lines_of_line (List.append_ne_nil_of_left_ne_nil hv.name_ne_nil _) (line_of_plain hv _)

/-- Plain lines in front of a text add their variables, and nothing else changes. -/
theorem linesOf_join_written {vs : List (String × String)} (hvs : ∀ v ∈ vs, IsPlain v)
    {text : String} (hmark : text.toList.head? ≠ some '\uFEFF') :
    linesOf (String.join (vs.map written) ++ text) = vs.map asLine ++ linesOf text := by
  induction vs with
  | nil => rw [List.map_nil, String.join_nil, String.empty_append, List.map_nil, List.nil_append]
  | cons v rest ih =>
      have hrest := ih fun w hw => hvs w (List.mem_cons_of_mem v hw)
      have hhead : (String.join (rest.map written) ++ text).toList.head? ≠ some '\uFEFF' := by
        cases rest with
        | nil => simpa using hmark
        | cons w later =>
            have hw := hvs w (List.mem_cons_of_mem v List.mem_cons_self)
            simpa [written] using head?_of_plain hw ('=' :: (w.2.toList ++
              '\n' :: ((String.join (later.map written)).toList ++ text.toList)))
      rw [List.map_cons, String.join_cons, String.append_assoc,
        linesOf_written (hvs v List.mem_cons_self) hhead, hrest, List.map_cons, List.cons_append]

end NamedQuery.EnvFile
