/-
  SqlComposer.Proofs.Url.Components — the texts that percent-encoded parts of a URL stand for.

  Read as percent-encoding, bytes are plain ones and escapes. A plain byte that is no
  hexadecimal digit ends every escape, so an ampersand separates what is before it from
  what is behind it, and plus signs may be written as `%2B`.

  Proved: the component of a data source name is the value of a form in which every plus
  sign has been written that way (`head_pairs`). It is the text its part of the URL
  stands for only up to the first ampersand, hence all of that text exactly when there is
  no ampersand (`component_eq_text`).
-/

import Mathlib.Data.List.Basic
import Mathlib.Data.List.TakeWhile
import SqlComposer.Proofs.Text.Splitting
import SqlComposer.Proofs.Text.Utf8
import SqlComposer.Url.Form

namespace SqlComposer.Url

namespace Percent

/-! ## Bytes -/

/-- At the front there are no two digits of an escape. -/
def NoDigits : List UInt8 → Prop
  | high :: low :: _ => hexValue? high = none ∨ hexValue? low = none
  | _ => True

theorem decodeBytes_plain {b : UInt8} {rest : List UInt8} (h : b = 0x25 → NoDigits rest) :
    decodeBytes (b :: rest) = b :: decodeBytes rest := by
  match rest with
  | [] => rfl
  | [c] => rfl
  | high :: low :: rest =>
    by_cases hb : b = 0x25
    · rcases h hb with hnone | hnone <;> simp [decodeBytes, hnone]
    · simp [decodeBytes, hb]

theorem decodeBytes_escape {high low h l : UInt8} (hhigh : hexValue? high = some h) (hlow : hexValue? low = some l)
    (rest : List UInt8) : decodeBytes (0x25 :: high :: low :: rest) = (h * 16 + l) :: decodeBytes rest := by
  simp [decodeBytes, hhigh, hlow]

/-- Bytes are read from the front as plain bytes and escapes. -/
@[elab_as_elim]
theorem read_induction {motive : List UInt8 → Prop} (bs : List UInt8) (done : motive [])
    (plain : ∀ b rest, (b = 0x25 → NoDigits rest) → motive rest → motive (b :: rest))
    (escape : ∀ high low h l rest, hexValue? high = some h → hexValue? low = some l → motive rest →
      motive (0x25 :: high :: low :: rest)) : motive bs := by
  have one (b : UInt8) : motive [b] := plain b [] (fun _ => trivial) done
  fun_induction decodeBytes bs with
  | case1 => exact done
  | case2 b => exact one b
  | case3 b c => exact plain b [c] (fun _ => trivial) (one c)
  | case4 b high low rest h l hl hh hb ih =>
    obtain rfl : b = 0x25 := by simpa using hb
    exact escape high low h l rest hh hl ih
  | case5 b high low rest hno ih =>
    refine plain b (high :: low :: rest) (fun hb => ?_) ih
    cases hh : hexValue? high with
    | none => exact .inl hh
    | some h => cases hl : hexValue? low with
      | none => exact .inr hl
      | some l => exact absurd hl (hno h l (by simp [hb]) hh)

theorem noDigits_append_cons {b : UInt8} (hb : hexValue? b = none) {xs : List UInt8} (h : NoDigits xs) (ys : List UInt8) :
    NoDigits (xs ++ b :: ys) := by
  match xs with
  | [] => cases ys with
    | nil => trivial
    | cons y ys => exact .inl hb
  | [x] => exact .inr hb
  | x :: y :: xs => exact h

theorem decodeBytes_append_cons {b : UInt8} (hb : b ≠ 0x25) (hhex : hexValue? b = none) (xs ys : List UInt8) :
    decodeBytes (xs ++ b :: ys) = decodeBytes xs ++ b :: decodeBytes ys := by
  induction xs using read_induction with
  | done => exact decodeBytes_plain fun h => absurd h hb
  | plain x xs hx ih =>
    have hlonger : x = 0x25 → NoDigits (xs ++ b :: ys) := fun h => noDigits_append_cons hhex (hx h) ys
    rw [List.cons_append, decodeBytes_plain hlonger, decodeBytes_plain hx, ih, List.cons_append]
  | escape high low h l xs hh hl ih =>
    rw [List.cons_append, List.cons_append, List.cons_append, decodeBytes_escape hh hl, decodeBytes_escape hh hl, ih,
      List.cons_append]

/-! ## Plus signs -/

def plusByte (b : UInt8) : List UInt8 := if b = 0x2B then [0x25, 0x32, 0x42] else [b]

theorem plusByte_of_hex {b v : UInt8} (h : hexValue? b = some v) : plusByte b = [b] := by
  apply if_neg
  rintro rfl
  cases h

theorem noDigits_plusByte {xs : List UInt8} (h : NoDigits xs) : NoDigits (xs.flatMap plusByte) := by
  match xs with
  | [] => trivial
  | [x] =>
    by_cases hx : x = 0x2B
    · subst hx
      exact .inl rfl
    · simp [plusByte, hx, NoDigits]
  | x :: y :: xs =>
    by_cases hx : x = 0x2B
    · subst hx
      exact .inl rfl
    by_cases hy : y = 0x2B
    · subst hy
      simp only [List.flatMap_cons, plusByte, if_neg hx]
      exact .inr rfl
    · simp only [List.flatMap_cons, plusByte, if_neg hx, if_neg hy]
      exact h

theorem decodeBytes_plusByte (bs : List UInt8) : decodeBytes (bs.flatMap plusByte) = decodeBytes bs := by
  induction bs using read_induction with
  | done => rfl
  | plain b bs hb ih =>
    rw [List.flatMap_cons, decodeBytes_plain hb, ← ih]
    by_cases hplus : b = 0x2B
    · subst hplus
      exact decodeBytes_escape (h := 2) (l := 11) rfl rfl _
    · rw [plusByte, if_neg hplus]
      exact decodeBytes_plain fun h => noDigits_plusByte (hb h)
  | escape high low h l bs hh hl ih =>
    have hpercent : plusByte 0x25 = [0x25] := rfl
    simp only [List.flatMap_cons, hpercent, plusByte_of_hex hh, plusByte_of_hex hl, List.singleton_append]
    rw [decodeBytes_escape hh hl, decodeBytes_escape hh hl, ih]

/-! ## Texts -/

/-- The text that percent-encoded characters stand for, as far as it is UTF-8. -/
def text (cs : List Char) : String := String.ofList (Utf8.decode (decodeBytes (Utf8.encode cs)))

theorem text_append_ampersand (xs ys : List Char) : text (xs ++ '&' :: ys) = text xs ++ "&" ++ text ys := by
  have hencode : Utf8.encode (xs ++ '&' :: ys) = Utf8.encode xs ++ 0x26 :: Utf8.encode ys := by
    rw [Utf8.encode_append]
    rfl
  have hdecode := Utf8.decode_append_cons (b := 0x26) (by decide) (decodeBytes (Utf8.encode xs))
    (decodeBytes (Utf8.encode ys))
  rw [text, hencode, decodeBytes_append_cons (by decide) rfl, hdecode, String.ofList_append, String.append_assoc]
  exact congrArg (text xs ++ ·) (String.ofList_cons ..)

/-- Every plus sign written as an escape. -/
def escapePlus (cs : List Char) : List Char := cs.flatMap fun c => if c = '+' then ['%', '2', 'B'] else [c]

theorem encode_escapePlus (cs : List Char) : Utf8.encode (escapePlus cs) = (Utf8.encode cs).flatMap plusByte := by
  induction cs with
  | nil => rfl
  | cons c cs ih =>
    have hchar : Utf8.encode (if c = '+' then ['%', '2', 'B'] else [c]) = (Utf8.encodeChar c).flatMap plusByte := by
      by_cases hc : c = '+'
      · subst hc
        rfl
      · have hplain : ∀ b ∈ Utf8.encodeChar c, plusByte b = [b] := by
          intro b hb
          apply if_neg
          rintro rfl
          exact hc (Utf8.eq_of_mem_encodeChar (by decide) hb)
        rw [if_neg hc, List.flatMap_congr hplain, List.flatMap_singleton', Utf8.encode, List.flatMap_singleton]
    rw [escapePlus, List.flatMap_cons, Utf8.encode_append, hchar, ← escapePlus, ih, ← List.flatMap_append]
    rfl

theorem text_escapePlus (cs : List Char) : text (escapePlus cs) = text cs := by
  rw [text, encode_escapePlus, decodeBytes_plusByte, text]

end Percent

/-! ## Components -/

namespace Form

open Percent

theorem component_eq (cs : List Char) : component cs = text (cs.takeWhile (· != '&')) := rfl

theorem split_ampersand {cs : List Char} (h : '&' ∈ cs) : ∃ rest, cs = cs.takeWhile (· != '&') ++ '&' :: rest := by
  induction cs with
  | nil => cases h
  | cons c cs ih =>
    by_cases hc : c = '&'
    · subst hc
      exact ⟨cs, rfl⟩
    · obtain ⟨rest, hrest⟩ := ih ((List.mem_cons.mp h).resolve_left (Ne.symm hc))
      refine ⟨rest, ?_⟩
      rw [List.takeWhile_cons_of_pos (by simpa using hc), List.cons_append, ← hrest]

theorem takeWhile_ampersand {cs : List Char} (h : '&' ∉ cs) : cs.takeWhile (· != '&') = cs := by
  rw [List.takeWhile_eq_self_iff]
  intro c hc
  simpa using ne_of_mem_of_not_mem hc h

/-- A component is cut off at an ampersand. -/
theorem component_eq_text {cs : List Char} : component cs = text cs ↔ '&' ∉ cs := by
  constructor
  · intro h hmem
    obtain ⟨rest, hrest⟩ := split_ampersand hmem
    have htext := text_append_ampersand (cs.takeWhile (· != '&')) rest
    rw [← hrest, ← component_eq, ← h] at htext
    have hlength := congrArg String.length htext
    have hone : "&".length = 1 := rfl
    simp only [String.length_append] at hlength
    omega
  · intro h
    rw [component_eq, takeWhile_ampersand h]

theorem decode_escapePlus (cs : List Char) : decode (escapePlus cs) = text cs := by
  have hspaced : (escapePlus cs).map (fun c => if c == '+' then ' ' else c) = escapePlus cs := by
    rw [escapePlus, List.map_flatMap]
    refine List.flatMap_congr fun c _ => ?_
    by_cases hc : c = '+' <;> simp [hc]
  rw [decode, hspaced]
  exact text_escapePlus cs

theorem not_mem_escapePlus {cs : List Char} (h : '&' ∉ cs) : '&' ∉ escapePlus cs := by
  intro hmem
  obtain ⟨c, hc, hmem⟩ := List.mem_flatMap.mp hmem
  by_cases hplus : c = '+'
  · simp [hplus] at hmem
  · rw [if_neg hplus, List.mem_singleton] at hmem
    exact h (hmem ▸ hc)

/-- The first piece ends where the component does. -/
theorem splitOn_escapePlus {lead : List Char} (hlead : '&' ∉ lead) (cs : List Char) :
    ∃ pieces, Chars.splitOn (· == '&') (lead ++ escapePlus cs) =
      (lead ++ escapePlus (cs.takeWhile (· != '&'))) :: pieces := by
  have hone {cs : List Char} (hcs : '&' ∉ cs) :
      Chars.splitOn (· == '&') (lead ++ escapePlus cs) = [lead ++ escapePlus cs] := by
    apply Chars.splitOn_of_none
    intro c hc
    rw [beq_eq_false_iff_ne]
    rintro rfl
    exact (List.mem_append.mp hc).elim hlead (not_mem_escapePlus hcs)
  by_cases hmem : '&' ∈ cs
  · obtain ⟨rest, hrest⟩ := split_ampersand hmem
    have hfront : '&' ∉ cs.takeWhile (· != '&') := fun h => by simpa using List.mem_takeWhile_imp h
    have htext : lead ++ escapePlus cs = (lead ++ escapePlus (cs.takeWhile (· != '&'))) ++ '&' :: escapePlus rest := by
      conv_lhs => rw [hrest]
      rw [escapePlus, List.flatMap_append, List.append_assoc]
      rfl
    rw [htext, Chars.splitOn_append_cons (p := (· == '&')) rfl, hone hfront]
    exact ⟨_, rfl⟩
  · rw [takeWhile_ampersand hmem]
    exact ⟨[], hone hmem⟩

/-- The component is what the value of a form gives when no plus sign in it stands for a space. -/
theorem head_pairs (cs : List Char) : (pairs ('v' :: '=' :: escapePlus cs)).head? = some ("v", component cs) := by
  have hlead : '&' ∉ ['v', '='] := by decide
  obtain ⟨pieces, hpieces⟩ := splitOn_escapePlus hlead cs
  have hname : decode ['v'] = "v" := rfl
  have hpair (value : List Char) : pair ('v' :: '=' :: value) = ("v", decode value) := by
    simp [pair, Chars.splitFirst, hname]
  have hcomponent : pair (['v', '='] ++ escapePlus (cs.takeWhile (· != '&'))) = ("v", component cs) := by
    rw [List.cons_append, List.singleton_append, hpair, decode_escapePlus, component_eq]
  rw [← hcomponent]
  change (((Chars.splitOn (· == '&') (['v', '='] ++ escapePlus cs)).filter (!·.isEmpty)).map pair).head? = _
  rw [hpieces]
  rfl

end Form

end SqlComposer.Url
