/-
  SqlComposer.Proofs.Dsn.Keys — the keys of data source names at the front of a text.

  Proved: a key is made of letters (`Key.isAlpha`). So a text that begins with a key and an
  equals sign has no scheme, and read as a URL it is refused (`ofUrl_entry`).
-/

import SqlComposer.Dsn.Source
import SqlComposer.Proofs.Dsn.Entries
import SqlComposer.Proofs.Text.Letters

namespace SqlComposer

namespace Conninfo

/-! ## Keys -/

structure Key (key : String) : Prop where
  bare : Bare key
  known : (DsnKey.ofText key).isSome

/-- The spellings of all keys. -/
def keyWords : List String := ["host", "server", "dbname", "database", "user", "username", "password", "port", "options"]

theorem mem_keyWords {key : String} (h : (DsnKey.ofText key).isSome) : Text.lower (Text.trim key) ∈ keyWords := by
  by_contra hno
  simp only [keyWords, List.mem_cons, List.not_mem_nil, or_false, not_or] at hno
  simp [DsnKey.ofText, hno] at h

theorem lt_of_isAlpha {c : Char} (h : c.isAlpha = true) : 0x20 < c.toNat := by
  have h : (c.isUpper || c.isLower) = true := h
  rw [Bool.or_eq_true, Chars.isUpper_iff, Chars.isLower_iff] at h
  omega

/-- A key is made of letters. -/
theorem Key.isAlpha {key : String} (h : Key key) : ∀ c ∈ key.toList, c.isAlpha = true := by
  have htrimmed : Chars.Trimmed key.toList :=
    ⟨fun c hc => (h.bare c (List.mem_of_mem_head? hc)).2, fun c hc => (h.bare c (List.mem_of_mem_getLast? hc)).2⟩
  have hword := mem_keyWords h.known
  rw [Text.trim, Chars.trim_of_trimmed htrimmed, String.ofList_toList] at hword
  have hletters : ∀ word ∈ keyWords, ∀ c ∈ word.toList, c.isLower = true := by simp [keyWords]
  intro c hc
  rw [← Chars.isLower_toLower]
  apply hletters _ hword
  rw [Text.lower, String.toList_ofList]
  exact List.mem_map_of_mem hc

end Conninfo

/-! ## No scheme -/

/-- What is taken away around a text and inside leaves a lead without controls and spaces whole. -/
theorem Url.tidy_lead {lead : List Char} (hne : lead ≠ []) (hlead : ∀ c ∈ lead, 0x20 < c.toNat) (rest : List Char) :
    ∃ tail, tidy (lead ++ rest) = lead ++ tail := by
  have houter : ∀ c ∈ lead, decide (c.toNat ≤ 0x20) = false := by
    intro c hc
    have hplain := hlead c hc
    rw [decide_eq_false_iff_not]
    omega
  have hkept : ∀ c ∈ lead, (!(c == '\t' || c == '\n' || c == '\r')) = true := by
    intro c hc
    have hplain := hlead c hc
    simp only [Bool.not_eq_true', Bool.or_eq_false_iff, beq_eq_false_iff_ne]
    refine ⟨⟨?_, ?_⟩, ?_⟩ <;> rintro rfl <;> contradiction
  have hfront : (lead ++ rest).dropWhile (fun c => decide (c.toNat ≤ 0x20)) = lead ++ rest := by
    obtain ⟨b, lead, rfl⟩ := List.exists_cons_of_ne_nil hne
    exact List.dropWhile_cons_of_neg (by simp [houter b List.mem_cons_self])
  have hlast : lead.reverse.dropWhile (fun c => decide (c.toNat ≤ 0x20)) = lead.reverse := by
    apply Chars.dropWhile_of_head
    intro c hc
    exact houter c (List.mem_reverse.mp (List.mem_of_mem_head? hc))
  have hback : (rest.reverse ++ lead.reverse).dropWhile (fun c => decide (c.toNat ≤ 0x20)) =
      rest.reverse.dropWhile (fun c => decide (c.toNat ≤ 0x20)) ++ lead.reverse := by
    rw [List.dropWhile_append]
    split
    · next hrest => rw [hlast, List.isEmpty_iff.mp hrest, List.nil_append]
    · rfl
  rw [tidy, hfront, List.reverse_append, hback, List.reverse_append, List.reverse_reverse, List.filter_append,
    List.filter_eq_self.mpr hkept]
  exact ⟨_, rfl⟩

namespace Dsn

open Conninfo

/-- An equals sign comes before any colon, so there is no scheme. -/
theorem ofUrl_entry {key : String} (hkey : Key key) (rest : List Char) :
    ofUrl (String.ofList (key.toList ++ '=' :: rest)) = .error (.badUrl .noBase) := by
  have hscheme : ∀ c ∈ key.toList, Url.isSchemeChar c = true := by
    intro c hc
    rw [Url.isSchemeChar, Char.isAlphanum, hkey.isAlpha c hc]
    rfl
  have hplain : ∀ c ∈ key.toList ++ ['='], 0x20 < c.toNat := by
    intro c hc
    rcases List.mem_append.mp hc with hc | hc
    · exact lt_of_isAlpha (hkey.isAlpha c hc)
    · obtain rfl := List.mem_singleton.mp hc
      decide
  obtain ⟨tail, htail⟩ := Url.tidy_lead (by simp) hplain rest
  rw [List.append_assoc, List.singleton_append, List.append_assoc, List.singleton_append] at htail
  have hnone : Url.readScheme (key.toList ++ '=' :: tail) = none := by
    have hstop : ∀ c ∈ ('=' :: tail).head?, Url.isSchemeChar c = false := by
      intro c hc
      obtain rfl := Option.some.inj hc
      decide
    rw [Url.readScheme, Chars.span_append hscheme hstop]
    cases key.toList <;> rfl
  rw [ofUrl, Url.parse, String.toList_ofList, htail, hnone]

end Dsn

end SqlComposer
