/-
  SqlComposer.Proofs.Text.CommaLists — comma-separated lists as they are written.

  An entry of a list is closed when it ends outside of its quotations and parentheses, and
  holds no comma and no closing parenthesis outside of them. White space may stand around
  what an entry says.

  Proved: closed entries with commas between them are read as the entries, trimmed, without
  the blank ones (`Text.commaList_join`). Texts without quotes, commas and parentheses are
  closed (`CommaList.closed_of_plain`), and so is one closed text behind another
  (`CommaList.closes_append`).
-/

import Mathlib.Data.List.Basic
import SqlComposer.Proofs.Text.Chars
import SqlComposer.Text.CommaList

namespace SqlComposer

namespace CommaList

/-! ## Closed texts -/

/-- From `d` on the text ends at depth zero, and at depth zero it holds no comma and no closing parenthesis. -/
def Depth.closes (d : Depth) : List Char → Bool
  | [] => d.isTop
  | c :: cs => !(d.isTop && (c == ',' || c == ')')) && (d.after c).closes cs

/-- The text is closed, from depth zero to depth zero. -/
def Closed (cs : List Char) : Prop := Depth.closes { } cs = true

/-- A character that neither opens nor closes anything nor ends an entry. -/
def IsPlain (c : Char) : Prop := c ∉ ",()'\"\x60".toList

instance : DecidablePred IsPlain := fun c => inferInstanceAs (Decidable (c ∉ ",()'\"\x60".toList))

theorem Depth.eq_top {d : Depth} (h : d.isTop = true) : d = { } := by
  obtain ⟨quote, parens⟩ := d
  cases quote <;> simp_all [isTop]

theorem Depth.closes_cons {d : Depth} {c : Char} {cs : List Char} :
    d.closes (c :: cs) = true ↔ (d.isTop = true → c ≠ ',' ∧ c ≠ ')') ∧ (d.after c).closes cs = true := by
  rw [closes, Bool.and_eq_true]
  cases d.isTop <;> simp

theorem closes_append {d : Depth} {xs ys : List Char} (hxs : d.closes xs = true) (hys : Closed ys) :
    d.closes (xs ++ ys) = true := by
  induction xs generalizing d with
  | nil =>
    obtain rfl := Depth.eq_top hxs
    exact hys
  | cons c xs ih =>
    obtain ⟨hc, hxs⟩ := Depth.closes_cons.mp hxs
    exact Depth.closes_cons.mpr ⟨hc, ih hxs⟩

theorem Closed.append {xs ys : List Char} (hxs : Closed xs) (hys : Closed ys) : Closed (xs ++ ys) := closes_append hxs hys

theorem IsPlain.ne {c : Char} (h : IsPlain c) :
    c ≠ ',' ∧ c ≠ '(' ∧ c ≠ ')' ∧ c ≠ '\'' ∧ c ≠ '"' ∧ c ≠ '\x60' := by simpa [IsPlain] using h

theorem Depth.after_plain {n : Nat} {c : Char} (h : IsPlain c) : after ⟨none, n⟩ c = ⟨none, n⟩ := by
  obtain ⟨-, hopen, hclose, hsingle, hdouble, hgrave⟩ := h.ne
  simp [after, hopen, hclose, hsingle, hdouble, hgrave]

theorem closed_of_plain {cs : List Char} (h : ∀ c ∈ cs, IsPlain c) : Closed cs := by
  induction cs with
  | nil => rfl
  | cons c cs ih =>
    obtain ⟨hc, hcs⟩ := List.forall_mem_cons.mp h
    obtain ⟨hcomma, -, hclose, -⟩ := hc.ne
    refine Depth.closes_cons.mpr ⟨fun _ => ⟨hcomma, hclose⟩, ?_⟩
    rw [Depth.after_plain hc]
    exact ih hcs

theorem isPlain_of_blank {c : Char} (hc : isBlank c = true) : IsPlain c := by
  have hblank : ∀ s ∈ ",()'\"\x60".toList, isBlank s = false := List.forall_iff_forall_mem.mp (by decide)
  intro hmem
  rw [hblank c hmem] at hc
  cases hc

theorem closed_of_blank {cs : List Char} (h : ∀ c ∈ cs, isBlank c = true) : Closed cs :=
  closed_of_plain fun c hc => isPlain_of_blank (h c hc)

/-! ## Reading closed entries -/

/-- What ends no entry goes to the piece behind it. -/
theorem pieces_cons {d : Depth} {c : Char} {cs piece : List Char} {more : List (List Char)}
    (hc : d.isTop = true → c ≠ ',') (h : pieces (d.after c) cs = piece :: more) :
    pieces d (c :: cs) = (c :: piece) :: more := by
  have hnot : (c == ',' && d.isTop) = false := by
    cases htop : d.isTop with
    | false => rw [Bool.and_false]
    | true => rw [beq_eq_false_iff_ne.mpr (hc htop), Bool.false_and]
  rw [pieces, hnot, if_neg Bool.false_ne_true, h]

theorem pieces_of_closes {d : Depth} {cs : List Char} (h : d.closes cs = true) : pieces d cs = [cs] := by
  induction cs generalizing d with
  | nil => rfl
  | cons c cs ih =>
    obtain ⟨hc, hcs⟩ := Depth.closes_cons.mp h
    exact pieces_cons (fun htop => (hc htop).1) (ih hcs)

theorem pieces_append_comma {d : Depth} {cs : List Char} (h : d.closes cs = true) (rest : List Char) :
    pieces d (cs ++ ',' :: rest) = cs :: pieces { } rest := by
  induction cs generalizing d with
  | nil =>
    obtain rfl := Depth.eq_top h
    rfl
  | cons c cs ih =>
    obtain ⟨hc, hcs⟩ := Depth.closes_cons.mp h
    exact pieces_cons (fun htop => (hc htop).1) (ih hcs)

theorem pieces_join {entry : String} {rest : List String} (h : ∀ e ∈ entry :: rest, Closed e.toList) :
    pieces { } (Text.join "," (entry :: rest)).toList = (entry :: rest).map String.toList := by
  induction rest generalizing entry with
  | nil =>
    obtain ⟨hentry, -⟩ := List.forall_mem_cons.mp h
    simpa [Text.join] using pieces_of_closes hentry
  | cons next rest ih =>
    obtain ⟨hentry, hrest⟩ := List.forall_mem_cons.mp h
    have hjoin : (Text.join "," (entry :: next :: rest)).toList =
        entry.toList ++ ',' :: (Text.join "," (next :: rest)).toList := by
      simp [Text.join, String.intercalate_cons_cons]
    rw [hjoin, pieces_append_comma hentry, ih hrest]
    rfl

end CommaList

/-! ## Lists -/

namespace Text

theorem trim_of_mem_commaList {spec term : String} (h : term ∈ commaList spec) : trim term = term := by
  obtain ⟨cs, hcs, rfl⟩ := List.mem_map.mp h
  obtain ⟨piece, -, rfl⟩ := List.mem_map.mp (List.mem_filter.mp hcs).1
  rw [trim, String.toList_ofList, Chars.trim_of_trimmed (Chars.trimmed_trim piece)]

theorem isBlank_iff {s : String} : isBlank s = true ↔ ∀ c ∈ s.toList, SqlComposer.isBlank c = true := by
  rw [isBlank, List.isEmpty_iff, Chars.trim_eq_nil]

/-- The outer text is the inner one, with white space around it or not. -/
def Around (inner outer : String) : Prop :=
  ∃ pre post, outer = pre ++ inner ++ post ∧ isBlank pre = true ∧ isBlank post = true

theorem Around.trim_eq {inner outer : String} (h : Around inner outer) : trim outer = trim inner := by
  obtain ⟨pre, post, rfl, hpre, hpost⟩ := h
  rw [trim, String.toList_append, String.toList_append, List.append_assoc,
    Chars.trim_surrounded (isBlank_iff.mp hpre) (isBlank_iff.mp hpost), trim]

theorem Around.closed {inner outer : String} (h : Around inner outer) (hinner : CommaList.Closed inner.toList) :
    CommaList.Closed outer.toList := by
  obtain ⟨pre, post, rfl, hpre, hpost⟩ := h
  rw [String.toList_append, String.toList_append]
  exact ((CommaList.closed_of_blank (isBlank_iff.mp hpre)).append hinner).append
    (CommaList.closed_of_blank (isBlank_iff.mp hpost))

theorem commaList_join {entries : List String} (h : ∀ e ∈ entries, CommaList.Closed e.toList) :
    commaList (join "," entries) = (entries.map trim).filter (· ≠ "") := by
  cases entries with
  | nil => rfl
  | cons entry rest =>
    have hblank : (fun cs : List Char => !cs.isEmpty) = (fun s : String => decide (s ≠ "")) ∘ String.ofList := by
      funext cs
      cases cs <;> simp
    have htrim : (entry :: rest).map trim = (((entry :: rest).map String.toList).map Chars.trim).map String.ofList := by
      rw [List.map_map, List.map_map]
      rfl
    rw [commaList, CommaList.pieces_join h, htrim, hblank, List.filter_map (f := String.ofList)]

/-- Entries that say something are all read, in their order. -/
theorem commaList_join_filled {entries : List String} (h : ∀ e ∈ entries, CommaList.Closed e.toList ∧ trim e ≠ "") :
    commaList (join "," entries) = entries.map trim := by
  rw [commaList_join fun e he => (h e he).1, List.filter_eq_self, List.forall_mem_map]
  exact fun e he => decide_eq_true (h e he).2

end Text

end SqlComposer
