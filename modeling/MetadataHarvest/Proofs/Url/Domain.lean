import MetadataHarvest.Proofs.Text.Composition
import MetadataHarvest.Proofs.Url.Form
import MetadataHarvest.Url.Host

/-!
# What no domain name holds

A character that may not stand in a label stands nowhere in the text of a domain name, unless
decoding, composing or a label in ASCII form takes it away. The percent sign is decoded, and three
signs compose with a mark; each of the other characters is found in a label again, where it is
refused.
-/

namespace MetadataHarvest

namespace Text

/-- A byte of the ASCII range is a character of its own. -/
theorem toNat_of_mem_utf8EncodeChar {byte : UInt8} {c : Char} (h : byte ∈ String.utf8EncodeChar c)
    (hbyte : byte.toNat < 0x80) : c.toNat = byte.toNat := by
  unfold String.utf8EncodeChar at h
  have hc : c.val.toNat = c.toNat := rfl
  simp only [hc] at h
  split at h
  · obtain rfl := List.mem_singleton.mp h
    simp only [UInt8.toNat_ofNat']
    omega
  · exfalso
    split at h
    · simp only [List.mem_cons, List.not_mem_nil, or_false] at h
      rcases h with rfl | rfl <;> simp only [UInt8.toNat_ofNat'] at hbyte <;> omega
    · split at h
      · simp only [List.mem_cons, List.not_mem_nil, or_false] at h
        rcases h with rfl | rfl | rfl <;> simp only [UInt8.toNat_ofNat'] at hbyte <;> omega
      · simp only [List.mem_cons, List.not_mem_nil, or_false] at h
        rcases h with rfl | rfl | rfl | rfl <;> simp only [UInt8.toNat_ofNat'] at hbyte <;> omega

variable {c : Char} {cs : List Char}

/-- An ASCII character is found in a text exactly when its byte is. -/
theorem mem_utf8_iff_of_ascii (hc : c.toNat < 0x80) :
    UInt8.ofNat c.toNat ∈ utf8 cs ↔ c ∈ cs := by
  have hbyte : (UInt8.ofNat c.toNat).toNat = c.toNat := by
    rw [UInt8.toNat_ofNat']
    omega
  rw [utf8, List.mem_flatMap]
  constructor
  · rintro ⟨d, hd, hmem⟩
    have hnat := toNat_of_mem_utf8EncodeChar hmem (by omega)
    rw [hbyte, Char.toNat_inj] at hnat
    exact hnat ▸ hd
  · intro hmem
    refine ⟨c, hmem, ?_⟩
    have hval : c.val.toNat ≤ 0x7F := by
      have hval : c.val.toNat = c.toNat := rfl
      omega
    rw [String.utf8EncodeChar, if_pos hval]
    exact List.mem_singleton_self _

/-- A search for the first entry that is not below stays at its start when none is below. -/
theorem firstNot_of_forall_not {below : Nat → Bool} (h : ∀ i, below i = false) (low high : Nat) :
    Table.firstNot below low high = low := by
  fun_induction Table.firstNot below low high with
  | case1 low high hlt middle hbelow ih =>
      rw [h middle] at hbelow
      cases hbelow
  | case2 low high hlt middle hbelow ih => exact ih
  | case3 => rfl

/-- Nothing before the first of all ranges is in one of them. -/
theorem RangeSet.contains_of_lt {s : RangeSet} {n : Nat}
    (h : ∀ range ∈ s.ranges.toList, n < range.1) : s.contains n = false := by
  have hbelow (i : Nat) :
      (s.ranges[i]?.map fun entry => decide (entry.1 ≤ n)).getD false = false := by
    cases hi : s.ranges[i]? with
    | none => rfl
    | some range =>
        have hlt := h range (Array.mem_toList_iff.mpr (Array.mem_of_getElem? hi))
        simp only [Option.map_some, Option.getD_some, decide_eq_false_iff_not]
        omega
  have hfloor : Table.floor? s.ranges n = none := by
    simp only [Table.floor?, firstNot_of_forall_not hbelow, if_true]
  rw [RangeSet.contains, hfloor]

end Text

namespace Url

open Text

namespace Punycode

variable {c : Char} {cs rest known label : List Char} {k weight bias total n code index : Nat}
  {first : Bool}

/-- What a number takes are digits. -/
theorem mem_of_number? (hc : digit? c = none) (h : number? k weight bias total cs = some (n, rest))
    (hmem : c ∈ cs) : c ∈ rest := by
  induction cs generalizing k weight total with
  | nil => cases h
  | cons d cs ih =>
      rw [number?] at h
      cases hd : digit? d with
      | none =>
          rw [hd] at h
          cases h
      | some digit =>
          have hne : c ≠ d := by
            rintro rfl
            rw [hc] at hd
            cases hd
          have hcs : c ∈ cs := (List.mem_cons.mp hmem).resolve_left hne
          simp only [hd] at h
          split at h
          · cases h
          · split at h
            · obtain ⟨-, rfl⟩ := Prod.mk.inj (Option.some.inj h)
              exact hcs
            · split at h
              · cases h
              · exact ih h hcs

/-- A character that is no digit can only have been known before. -/
theorem mem_of_insertAll? (hc : digit? c = none)
    (h : insertAll? known code index bias first cs = some label) (hmem : c ∈ known ∨ c ∈ cs) :
    c ∈ label := by
  fun_induction insertAll? known code index bias first cs with
  | case1 known code index bias first cs hempty =>
      obtain rfl := Option.some.inj h
      rw [List.isEmpty_iff.mp hempty] at hmem
      exact hmem.resolve_right List.not_mem_nil
  | case2 => cases h
  | case3 known code index bias first cs hempty next rest hnumber count code' place hvalid ih =>
      apply ih h
      rcases hmem with hknown | hcs
      · left
        rw [← List.take_append_drop place known, List.mem_append] at hknown
        rw [List.mem_append, List.mem_cons]
        exact hknown.imp_right .inr
      · exact .inr (mem_of_number? hc hnumber hcs)
  | case4 => cases h

/-- What stands before the last hyphen, and what follows it, hold all other characters. -/
theorem mem_dropLast_or_mem_rtakeWhile (hhyphen : c ≠ '-') (hmem : c ∈ cs) :
    c ∈ (cs.rdropWhile (· ≠ '-')).dropLast ∨ c ∈ cs.rtakeWhile (· ≠ '-') := by
  have hparts : cs.rdropWhile (· ≠ '-') ++ cs.rtakeWhile (· ≠ '-') = cs :=
    List.rdropWhile_append_rtakeWhile
  rw [← hparts, List.mem_append] at hmem
  refine hmem.imp_left fun hfront => ?_
  have hne : cs.rdropWhile (· ≠ '-') ≠ [] := List.ne_nil_of_mem hfront
  have hlast := List.rdropWhile_last_not (· ≠ '-') cs hne
  rw [← List.dropLast_append_getLast hne, List.mem_append, List.mem_singleton] at hfront
  refine hfront.resolve_right fun hc => hlast ?_
  rw [← hc]
  exact decide_eq_true hhyphen

/-- Decoding keeps what is neither a digit nor a hyphen. -/
theorem mem_of_decode? (hc : digit? c = none) (hhyphen : c ≠ '-') (h : decode? cs = some label)
    (hmem : c ∈ cs) : c ∈ label := by
  have hparts : cs.rdropWhile (· ≠ '-') ++ cs.rtakeWhile (· ≠ '-') = cs :=
    List.rdropWhile_append_rtakeWhile
  have hlength : cs.length - (cs.rtakeWhile (· ≠ '-')).length =
      (cs.rdropWhile (· ≠ '-')).length := by
    have hall := congrArg List.length hparts
    rw [List.length_append] at hall
    omega
  have hfront : cs.take (cs.length - (cs.rtakeWhile (· ≠ '-')).length) =
      cs.rdropWhile (· ≠ '-') := by
    rw [hlength]
    exact (List.prefix_iff_eq_take.mp (List.rdropWhile_prefix _ cs)).symm
  have hdigits : (cs.reverse.takeWhile (· ≠ '-')).reverse = cs.rtakeWhile (· ≠ '-') := rfl
  simp only [decode?, hdigits, hfront] at h
  split at h
  · exact mem_of_insertAll? hc h (.inr hmem)
  · split at h
    · exact mem_of_insertAll? hc h (mem_dropLast_or_mem_rtakeWhile hhyphen hmem)
    · cases h

end Punycode

namespace DomainName

variable {c : Char} {cs label : List Char} {labels : List (List Char)}

/-- What stays in a text from decoding to the check of the labels, where it is refused. -/
structure IsBarred (c : Char) : Prop where
  forbidden : isForbidden c = true
  separate : isSeparate c = true
  lower : c.toLower = c
  percent : UInt8.ofNat c.toNat ≠ 0x25
  hexadecimal : Number.digit? 16 c = none
  digit : Punycode.digit? c = none
  mark : c ∉ ".xn-".toList

/-- A forbidden character is barred unless it is decoded or composes. -/
theorem isBarred_of_isForbidden (h : isForbidden c = true) (hsign : c ∉ "%<>".toList) :
    IsBarred c := by
  have hascii : c.toNat < 0x80 := by
    simp only [isForbidden, Bool.or_eq_true, decide_eq_true_eq, List.contains_iff_mem] at h
    rcases h with (hblank | hdelete) | hmem
    · omega
    · omega
    · have hall : ("%#/:<>?@[\\]^|".toList.all fun d => decide (d.toNat < 0x80)) = true := by
        decide
      exact of_decide_eq_true (List.all_eq_true.mp hall c hmem)
  have htext : isForbidden c = true → c ∉ "%<>".toList →
      isSeparate c = true ∧ c.toLower = c ∧ UInt8.ofNat c.toNat ≠ 0x25 :=
    forall_ascii hascii (by decide)
  have hsyntax : isForbidden c = true → c ∉ "%<>".toList →
      Number.digit? 16 c = none ∧ Punycode.digit? c = none ∧ c ∉ ".xn-".toList :=
    forall_ascii hascii (by decide)
  obtain ⟨hseparate, hlower, hpercent⟩ := htext h hsign
  obtain ⟨hhexadecimal, hdigit, hmark⟩ := hsyntax h hsign
  exact ⟨h, hseparate, hlower, hpercent, hhexadecimal, hdigit, hmark⟩

theorem mapChar?_of_ascii (h : c.toNat < 0x80) : mapChar? c = some [c.toLower] := by
  rw [mapChar?]
  exact if_pos h

/-- What each member of a list gives is a member of what the list gives. -/
theorem exists_mem_of_mapM {α β : Type} {f : α → Option β} {as : List α} {bs : List β}
    (h : as.mapM f = some bs) {a : α} (ha : a ∈ as) : ∃ b ∈ bs, f a = some b := by
  induction as generalizing bs with
  | nil => cases ha
  | cons first as ih =>
      rw [List.mapM_cons] at h
      obtain ⟨image, himage, h⟩ := Option.bind_eq_some_iff.mp h
      obtain ⟨images, himages, h⟩ := Option.bind_eq_some_iff.mp h
      obtain rfl := Option.some.inj h
      rcases List.mem_cons.mp ha with rfl | ha
      · exact ⟨image, List.mem_cons_self, himage⟩
      · obtain ⟨b, hb, hfa⟩ := ih himages ha
        exact ⟨b, List.mem_cons_of_mem _ hb, hfa⟩

theorem mem_splitDots (hdot : c ≠ '.') (hmem : c ∈ cs) : ∃ part ∈ splitDots cs, c ∈ part := by
  induction cs with
  | nil => cases hmem
  | cons d cs ih =>
      have hhere (part : List Char) (parts : List (List Char)) :
          c ∈ d :: part → ∃ p ∈ (d :: part) :: parts, c ∈ p := fun hin =>
        ⟨d :: part, List.mem_cons_self, hin⟩
      rw [splitDots]
      split
      · next hd =>
          have hcs : c ∈ cs := (List.mem_cons.mp hmem).resolve_left (hd ▸ hdot)
          obtain ⟨part, hpart, hin⟩ := ih hcs
          exact ⟨part, List.mem_cons_of_mem _ hpart, hin⟩
      · rcases List.mem_cons.mp hmem with rfl | hcs
        · split
          · exact hhere _ _ List.mem_cons_self
          · exact hhere _ _ List.mem_cons_self
        · obtain ⟨part, hpart, hin⟩ := ih hcs
          split
          · next hnil =>
              rw [hnil] at hpart
              cases hpart
          · next first parts hparts =>
              rw [hparts] at hpart
              rcases List.mem_cons.mp hpart with rfl | hpart
              · exact hhere _ _ (List.mem_cons_of_mem _ hin)
              · exact ⟨part, List.mem_cons_of_mem _ hpart, hin⟩

/-- A label holds each barred character of the text that stands for it. -/
theorem mem_of_label? (hc : IsBarred c) (h : label? cs = some label) (hmem : c ∈ cs) :
    c ∈ label := by
  unfold label? at h
  split at h
  · next digits =>
      obtain ⟨hdecode, -⟩ := Option.filter_eq_some_iff.mp h
      have hmark := hc.mark
      have hhyphen : c ≠ '-' := fun heq => hmark (heq ▸ by decide)
      have hdigits : c ∈ digits :=
        (List.mem_append (s := "xn--".toList).mp hmem).resolve_left fun hfront =>
          hmark (List.subset_def.mp (by decide) hfront)
      exact Punycode.mem_of_decode? hc.digit hhyphen hdecode hdigits
  · obtain rfl := Option.some.inj h
    exact hmem

/-- No domain name has a barred character. -/
theorem not_mem_of_labels? (hc : IsBarred c) (h : labels? cs = some labels) : c ∉ cs := by
  intro hmem
  obtain ⟨mapped, hmapped, h⟩ := Option.bind_eq_some_iff.mp h
  obtain ⟨found, hfound, h⟩ := Option.bind_eq_some_iff.mp h
  have hkept : c ∈ mapped.flatten := by
    obtain ⟨image, himage, hmap⟩ := exists_mem_of_mapM hmapped hmem
    rw [mapChar?_of_ascii (isSeparate_iff.mp hc.separate).1, hc.lower] at hmap
    obtain rfl := Option.some.inj hmap
    exact List.mem_flatten.mpr ⟨[c], himage, List.mem_singleton_self c⟩
  have hdot : c ≠ '.' := by
    rintro rfl
    exact hc.mark (by decide)
  obtain ⟨part, hpart, hin⟩ := mem_splitDots hdot (mem_composed hc.separate hkept)
  obtain ⟨label, hlabel, hread⟩ := exists_mem_of_mapM hfound hpart
  have hlabels : found.all isLabel = true := by
    have hchecked := (Option.ite_none_right_eq_some.mp h).1
    exact (Bool.and_eq_true _ _ ▸ hchecked).1
  have hfree := List.all_eq_true.mp hlabels label hlabel
  simp only [isLabel, Bool.and_eq_true, Bool.not_eq_true', List.any_eq_false] at hfree
  exact hfree.1.1 c (mem_of_label? hc hread hin) hc.forbidden

section Ascii

theorem le_of_mem_ranges :
    (∀ range ∈ rightToLeftRanges.ranges.toList, 0x80 ≤ range.1) ∧
    (∀ range ∈ arabicNumberRanges.ranges.toList, 0x80 ≤ range.1) ∧
    ∀ range ∈ markRanges.ranges.toList, 0x80 ≤ range.1 := by
  decide +kernel

theorem isRightward_of_ascii (h : c.toNat < 0x80) : (Direction.ofChar c).isRightward = false := by
  have hright : rightToLeftRanges.contains c.toNat = false :=
    RangeSet.contains_of_lt fun range hrange => h.trans_le (le_of_mem_ranges.1 range hrange)
  have harabic : arabicNumberRanges.contains c.toNat = false :=
    RangeSet.contains_of_lt fun range hrange => h.trans_le (le_of_mem_ranges.2.1 range hrange)
  simp only [Direction.ofChar, hright, harabic, Bool.false_eq_true, if_false]
  repeat' split
  all_goals rfl

theorem joinersShow_of_ascii (h : ∀ c ∈ cs, c.toNat < 0x80) (before : List Char) :
    joinersShow before cs = true := by
  induction cs generalizing before with
  | nil => rfl
  | cons c cs ih =>
      rw [List.forall_mem_cons] at h
      rw [joinersShow, if_neg (by omega), if_neg (by omega), ih h.2]
      rfl

/-- Whether a character may stand in every label. -/
def isPlain (c : Char) : Bool := c.toNat < 0x80 && !isForbidden c

theorem isPlain_iff : isPlain c = true ↔ c.toNat < 0x80 ∧ isForbidden c = false := by
  rw [isPlain, Bool.and_eq_true, decide_eq_true_iff, Bool.not_eq_true']

theorem isLabel_of_ascii (h : ∀ c ∈ label, c.toNat < 0x80 ∧ isForbidden c = false) :
    isLabel label = true := by
  have hforbidden : label.any isForbidden = false :=
    List.any_eq_false.mpr fun c hc => by simp [(h c hc).2]
  have hmark : (label.head?.map fun c => markRanges.contains c.toNat) ≠ some true := by
    cases label with
    | nil => exact nofun
    | cons c label =>
        have hascii := (h c List.mem_cons_self).1
        have hnot : markRanges.contains c.toNat = false :=
          RangeSet.contains_of_lt fun range hrange =>
            hascii.trans_le (le_of_mem_ranges.2.2 range hrange)
        simp [hnot]
  rw [isLabel, hforbidden, joinersShow_of_ascii (fun c hc => (h c hc).1), bne_iff_ne.mpr hmark]
  rfl

/-- Labels of ASCII characters need no more than that none of these is forbidden. -/
theorem labels?_of_ascii {mapped : List (List Char)} (hmapped : cs.mapM mapChar? = some mapped)
    (hlabels : (splitDots (composed mapped.flatten)).mapM label? = some labels)
    (h : labels.all (·.all isPlain) = true) : labels? cs = some labels := by
  have hplain : ∀ label ∈ labels, ∀ c ∈ label, c.toNat < 0x80 ∧ isForbidden c = false :=
    fun label hlabel c hc =>
      isPlain_iff.mp (List.all_eq_true.mp (List.all_eq_true.mp h label hlabel) c hc)
  have hall : labels.all isLabel = true :=
    List.all_eq_true.mpr fun label hlabel => isLabel_of_ascii (hplain label hlabel)
  have hmixed : (labels.any fun label => label.any fun c => (Direction.ofChar c).isRightward) =
      false := by
    simp only [List.any_eq_false, Bool.not_eq_true]
    intro label hlabel c hc
    exact isRightward_of_ascii (hplain label hlabel c hc).1
  simp only [labels?, hmapped, Option.bind_eq_bind, Option.bind_some, hlabels, hall, hmixed,
    Bool.not_false, Bool.true_or, Bool.and_true, if_true]

end Ascii

end DomainName

namespace Host

variable {cs : List Char} {labels : List (List Char)}

/-- What stands in brackets is no domain name. -/
theorem bracketed?_of_domain (h : ofDomain cs = .ok (.domain labels)) : bracketed? cs = none := by
  unfold ofDomain bracketed? at h
  unfold bracketed?
  split
  · exfalso
    simp only [Option.getD_some] at h
    split at h
    · cases h
    · cases h
  · rfl

/-- The text of a host that is a domain name has no barred character. -/
theorem not_mem_of_ofDomain {c : Char} (hc : DomainName.IsBarred c)
    (h : ofDomain cs = .ok (.domain labels)) : c ∉ cs := by
  intro hmem
  have hascii : c.toNat < 0x80 := (isSeparate_iff.mp hc.separate).1
  have hbyte : Char.ofNat (UInt8.ofNat c.toNat).toNat = c := by
    rw [UInt8.toNat_ofNat', Nat.mod_eq_of_lt (by omega), Char.ofNat_toNat]
  rw [ofDomain, bracketed?_of_domain h, Option.getD_none] at h
  split at h
  · next found hfound =>
      obtain ⟨s, hs, hlabels⟩ := Option.bind_eq_some_iff.mp hfound
      apply DomainName.not_mem_of_labels? hc hlabels
      rw [← mem_utf8_iff_of_ascii hascii, utf8_of_ofUtf8? hs]
      apply mem_percentDecode hc.percent
      · rw [hbyte]
        exact hc.hexadecimal
      · exact (mem_utf8_iff_of_ascii hascii).mpr hmem
  · cases h

theorem ofDomain_of_labels? {s : String} (hbracket : bracketed? cs = none)
    (hs : ofUtf8? (percentDecode (utf8 cs)) = some s)
    (hlabels : DomainName.labels? s.toList = some labels) : ofDomain cs = ofLabels labels := by
  rw [ofDomain, hbracket, Option.getD_none, hs, Option.bind_some, hlabels]

end Host

end Url

end MetadataHarvest
