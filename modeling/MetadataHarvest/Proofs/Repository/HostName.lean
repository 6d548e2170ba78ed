import MetadataHarvest.Proofs.Url.Written
import MetadataHarvest.Repository.HostName

/-!
# What an address is called after

The name of a repository is taken from the text of its address, by what stands at its beginning,
and the address is read with more care than that: its scheme may be written in upper case, other
marks than two slashes may follow it, and there may be control characters around it. Where the host
is not found the scheme is taken for it.
-/

namespace MetadataHarvest.HostName

open Text Url

/-- A text with its first character in upper case. -/
def titled : List Char → List Char
  | [] => []
  | c :: cs => uppercase c ++ cs

/-- A host without a leading `www.`, if more of the host follows it. -/
def withoutWww (host : List Char) : List Char :=
  if "www.".toList <+: host ∧ host.drop 4 ≠ [] then host.drop 4 else host

/-- Whether a text with this end after it begins like a name, of two characters or more. -/
def isNamed (cs tail : List Char) : Bool :=
  match cs with
  | [] => false
  | c :: more => isWord c && !(more ++ tail).isEmpty

/-- What is taken for the end of the host, although it comes after it. -/
def tail (w : WebText) : List Char := w.rest.takeWhile isHostChar

/-- Whether the host stands where it is looked for. -/
def isOpened (w : WebText) : Bool :=
  (w.scheme = "https".toList || w.scheme = "http".toList) && w.marks = "//".toList

/-- Whether the host is found and can be a name. -/
def isReached (w : WebText) : Bool := isOpened w && isNamed w.host (tail w)

/-- The name that is made of the parts of an address. -/
def called (w : WebText) : List Char :=
  if w.lead ≠ [] then unknown.toList
  else if isReached w then
    if isNamed (withoutWww w.host) (tail w) then titled (withoutWww w.host) ++ tail w
    else titled w.host ++ tail w
  else titled w.scheme

/-- An address in which the host is found, without `www.`, and ends where it should. -/
structure IsPlain (w : WebText) : Prop where
  lead : w.lead = []
  opened : isOpened w = true
  named : isNamed (withoutWww w.host) [] = true
  tail : tail w = []

/-- An address in which the host is not found and looks like the scheme. -/
structure IsEcho (w : WebText) : Prop where
  lead : w.lead = []
  missed : isReached w = false
  alike : titled w.scheme = titled (withoutWww w.host)

section Start

variable {c : Char} {cs front rest : List Char}

theorem findSome?_afterAny_nil (f : List Char → Option (List Char)) (cs : List Char) :
    (afterAny [] cs).findSome? f = f cs := by
  simp [afterAny]

/-- The text after an opening is tried before the others. -/
theorem findSome?_afterAny_cons (f : List Char → Option (List Char)) (opening : String)
    (openings : List String) (cs : List Char) :
    (afterAny (opening :: openings) cs).findSome? f =
      (if opening.toList <+: cs then f (cs.drop opening.length) else none).or
        ((afterAny openings cs).findSome? f) := by
  by_cases h : opening.toList <+: cs
  · have hcons : afterAny (opening :: openings) cs =
        cs.drop opening.length :: afterAny openings cs := by
      simp [afterAny, h]
    rw [if_pos h, hcons, List.findSome?_cons]
    cases f (cs.drop opening.length) with
    | none => rfl
    | some name => rfl
  · have hcons : afterAny (opening :: openings) cs = afterAny openings cs := by
      simp [afterAny, h]
    rw [if_neg h, hcons, Option.none_or]

theorem findSome?_flatMap (f : List Char → Option (List Char))
    (g : List Char → List (List Char)) (css : List (List Char)) :
    (css.flatMap g).findSome? f = css.findSome? fun cs => (g cs).findSome? f := by
  induction css with
  | nil => rfl
  | cons cs css ih =>
      rw [List.flatMap_cons, List.findSome?_append, ih, List.findSome?_cons]
      cases (g cs).findSome? f with
      | none => rfl
      | some name => rfl

/-- The name that a text gives when it begins with the host, or with `www.` before that. -/
def ofStart? (cs : List Char) : Option (List Char) := (afterAny ["www."] cs).findSome? ofHost?

theorem ofStart?_eq (cs : List Char) :
    ofStart? cs =
      (if "www.".toList <+: cs then ofHost? (cs.drop 4) else none).or (ofHost? cs) := by
  rw [ofStart?, findSome?_afterAny_cons, findSome?_afterAny_nil]
  rfl

/-- A name is looked for after each scheme of the web, and then in the whole text. -/
theorem ofAddress_eq (address : String) :
    ofAddress address =
      ((((if "https://".toList <+: trim address.toList then
          ofStart? ((trim address.toList).drop 8) else none).or
        ((if "http://".toList <+: trim address.toList then
          ofStart? ((trim address.toList).drop 7) else none).or
        (ofStart? (trim address.toList)))).map String.ofList).getD unknown) := by
  have hstart : (fun cs => (afterAny ["www."] cs).findSome? ofHost?) = ofStart? := rfl
  rw [ofAddress, findSome?_flatMap, hstart, findSome?_afterAny_cons, findSome?_afterAny_cons,
    findSome?_afterAny_nil]
  rfl

theorem ofHost?_append (hfront : ∀ c ∈ front, isHostChar c = true)
    (hrest : ∀ c ∈ rest.head?, isWord c = false) :
    ofHost? (front ++ rest) =
      if isNamed front (rest.takeWhile isHostChar) then
        some (titled front ++ rest.takeWhile isHostChar)
      else none := by
  cases front with
  | nil =>
      cases rest with
      | nil => rfl
      | cons c rest => simp [ofHost?, isNamed, hrest c rfl]
  | cons c more =>
      have hmore : (more ++ rest).takeWhile isHostChar = more ++ rest.takeWhile isHostChar :=
        List.takeWhile_append_of_pos fun d hd => hfront d (List.mem_cons_of_mem _ hd)
      simp only [List.cons_append, ofHost?, hmore, isNamed, titled, List.append_assoc]

theorem ofHost?_of_not_isWord (h : isWord c = false) : ofHost? (c :: cs) = none := by
  simp [ofHost?, h]

theorem ofStart?_of_not_isWord (h : isWord c = false) : ofStart? (c :: cs) = none := by
  have hwww : ¬ "www.".toList <+: c :: cs := by
    intro hbegin
    obtain ⟨rfl, -⟩ := List.cons_prefix_cons.mp (show 'w' :: "ww.".toList <+: c :: cs from hbegin)
    cases h
  rw [ofStart?_eq, if_neg hwww, Option.none_or, ofHost?_of_not_isWord h]

/-- A text with more after it begins with a mark only by itself, if what is after it cannot go on
with the mark. -/
theorem prefix_append_iff {mark : List Char} (hrest : ∀ c ∈ rest.head?, c ∉ mark) :
    mark <+: front ++ rest ↔ mark <+: front := by
  constructor
  · intro h
    rcases List.prefix_or_prefix_of_prefix h (List.prefix_append front rest) with hin | ⟨more, rfl⟩
    · exact hin
    · cases more with
      | nil => exact ⟨[], by simp⟩
      | cons d more =>
          rw [List.prefix_append_right_inj] at h
          obtain ⟨back, rfl⟩ := h
          exact absurd (by simp) (hrest d rfl)
  · intro h
    exact h.trans (List.prefix_append front rest)

/-- Texts with a first colon begin alike when they are alike before it and begin alike after it. -/
theorem colon_prefix_iff {cs ds xs ys : List Char} (hcs : ':' ∉ cs) (hds : ':' ∉ ds) :
    cs ++ ':' :: xs <+: ds ++ ':' :: ys ↔ cs = ds ∧ xs <+: ys := by
  induction cs generalizing ds with
  | nil =>
      cases ds with
      | nil => simp
      | cons d ds =>
          rw [List.mem_cons, not_or] at hds
          simp [hds.1]
  | cons c cs ih =>
      rw [List.mem_cons, not_or] at hcs
      cases ds with
      | nil => simp [Ne.symm hcs.1]
      | cons d ds =>
          rw [List.mem_cons, not_or] at hds
          simp [ih hcs.2 hds.2, and_assoc]

/-- The name after a scheme: the host is read with what follows it. -/
theorem ofStart?_append (hfront : ∀ c ∈ front, isHostChar c = true)
    (hrest : ∀ c ∈ rest.head?, isWord c = false ∧ c ≠ '.') :
    ofStart? (front ++ rest) =
      if isNamed (withoutWww front) (rest.takeWhile isHostChar) then
        some (titled (withoutWww front) ++ rest.takeWhile isHostChar)
      else if isNamed front (rest.takeWhile isHostChar) then
        some (titled front ++ rest.takeWhile isHostChar)
      else none := by
  have hword : ∀ c ∈ rest.head?, isWord c = false := fun c hc => (hrest c hc).1
  have hwww : ∀ c ∈ rest.head?, c ∉ "www.".toList := by
    intro c hc hmem
    obtain ⟨hnot, hdot⟩ := hrest c hc
    have hcases : c = 'w' ∨ c = '.' := by simpa using hmem
    rcases hcases with rfl | rfl
    · cases hnot
    · exact hdot rfl
  rw [ofStart?_eq, ofHost?_append hfront hword]
  by_cases hfirst : "www.".toList <+: front
  · obtain ⟨more, rfl⟩ := hfirst
    have hmore : ∀ c ∈ more, isHostChar c = true := fun c hc =>
      hfront c (List.mem_append_right _ hc)
    have hdrop : ("www.".toList ++ more ++ rest).drop 4 = more ++ rest := rfl
    rw [if_pos ((prefix_append_iff hwww).mpr (List.prefix_append _ _)), hdrop,
      ofHost?_append hmore hword]
    cases more with
    | nil =>
        have hkept : withoutWww ("www.".toList ++ []) = "www.".toList ++ [] := rfl
        rw [hkept]
        simp [isNamed]
    | cons d more =>
        have hkept : withoutWww ("www.".toList ++ d :: more) = d :: more := by
          rw [withoutWww, if_pos ⟨List.prefix_append _ _, List.cons_ne_nil d more⟩]
          rfl
        rw [hkept]
        split
        · rfl
        · rw [Option.none_or]
  · have hkept : withoutWww front = front := if_neg fun h => hfirst h.1
    rw [if_neg (mt (prefix_append_iff hwww).mp hfirst), Option.none_or, hkept]
    split
    · rfl
    · rfl

end Start

section Parts

variable {w : WebText} {address scheme : String} {labels : List (List Char)} {c : Char}

theorem isWord_of_isOuter (h : isOuter c = true) : isWord c = false := by
  have hle : c.toNat ≤ 0x20 := of_decide_eq_true h
  revert h
  exact forall_ascii (hle.trans_lt (by decide)) (by decide)

theorem isHostChar_of_endsHost (h : endsHost c = false) : isHostChar c = true := by
  simp_all [endsHost, SchemeKind.endsAuthority, isHostChar]

theorem isHostChar_of_isBreak (h : isBreak c = true) : isHostChar c = true :=
  isHostChar_of_endsHost (endsHost_of_isOuter (isOuter_of_isBreak h))

theorem isWord_of_endsHost (h : endsHost c = true) : isWord c = false ∧ c ≠ '.' := by
  simp only [endsHost, SchemeKind.endsAuthority, Bool.or_eq_true, Bool.and_eq_true,
    beq_iff_eq] at h
  rcases h with rfl | ((rfl | rfl) | rfl) | ⟨rfl, -⟩ <;> decide

theorem toLower_of_not_ascii (h : 0x80 ≤ c.toNat) : c.toLower = c := by
  have hupper : ¬(c.val ≥ 'A'.val ∧ c.val ≤ 'Z'.val) := by
    rintro ⟨-, hle⟩
    have hle' : c.toNat ≤ 'Z'.toNat := UInt32.le_iff_toNat_le.mp hle
    have hz : 'Z'.toNat = 90 := rfl
    omega
  exact dif_neg hupper

/-- The letters of a scheme of the web, in upper or lower case. -/
theorem of_toLower_mem (h : c.toLower ∈ "https".toList) :
    isWord c = true ∧ isHostChar c = true ∧ c ≠ 'w' := by
  by_cases hascii : c.toNat < 0x80
  · revert h
    exact forall_ascii hascii (by decide)
  · rw [toLower_of_not_ascii (by omega)] at h
    have hall : ("https".toList.all fun d => decide (d.toNat < 0x80)) = true := by decide
    exact absurd (of_decide_eq_true (List.all_eq_true.mp hall c h)) hascii

theorem head?_rest (h : w.Writes address scheme labels) :
    ∀ c ∈ w.rest.head?, isWord c = false ∧ c ≠ '.' := by
  intro c hc
  cases houter : isOuter c with
  | true =>
      refine ⟨isWord_of_isOuter houter, ?_⟩
      rintro rfl
      cases houter
  | false =>
      apply isWord_of_endsHost
      apply h.rest
      obtain ⟨rest, hrest⟩ : ∃ rest, w.rest = c :: rest := List.head?_eq_some_iff.mp hc
      rw [hrest, List.dropWhile_cons_of_neg (by simp [houter])]
      rfl

theorem mem_scheme (h : w.Writes address scheme labels) (hweb : scheme = "http" ∨ scheme = "https")
    (hc : c ∈ w.scheme) : isBreak c = true ∨ c.toLower ∈ "https".toList := by
  cases hbreak : isBreak c with
  | true => exact .inl rfl
  | false =>
      right
      have hmem : c ∈ unbroken w.scheme := List.mem_filter.mpr ⟨hc, by rw [hbreak]; rfl⟩
      have hlower : c.toLower ∈ scheme.toList := h.scheme ▸ List.mem_map_of_mem hmem
      have hall : ("http".toList.all fun d => "https".toList.contains d) = true := by decide
      rcases hweb with rfl | rfl
      · exact List.contains_iff_mem.mp (List.all_eq_true.mp hall _ hlower)
      · exact hlower

theorem isHostChar_of_mem_scheme (h : w.Writes address scheme labels)
    (hweb : scheme = "http" ∨ scheme = "https") : ∀ c ∈ w.scheme, isHostChar c = true := by
  intro c hc
  rcases mem_scheme h hweb hc with hbreak | hlower
  · exact isHostChar_of_isBreak hbreak
  · exact (of_toLower_mem hlower).2.1

/-- A scheme of the web begins with a letter, and another character follows. -/
theorem exists_scheme (h : w.Writes address scheme labels)
    (hweb : scheme = "http" ∨ scheme = "https") :
    ∃ first second more, w.scheme = first :: second :: more ∧ isWord first = true ∧
      first ≠ 'w' := by
  have hlength : 2 ≤ w.scheme.length := by
    have hle : (unbroken w.scheme).length ≤ w.scheme.length := List.length_filter_le _ _
    have heq := congrArg List.length h.scheme
    rw [List.length_map] at heq
    have hscheme : 2 ≤ scheme.toList.length := by rcases hweb with rfl | rfl <;> decide
    omega
  match hparts : w.scheme with
  | [] => simp [hparts] at hlength
  | [first] => simp [hparts] at hlength
  | first :: second :: more =>
      refine ⟨first, second, more, rfl, ?_⟩
      have houter : isOuter first = false := h.begins first (by rw [hparts]; rfl)
      rcases mem_scheme h hweb (hparts ▸ List.mem_cons_self) with hbreak | hlower
      · rw [isOuter_of_isBreak hbreak] at houter
        cases houter
      · exact ⟨(of_toLower_mem hlower).1, (of_toLower_mem hlower).2.2⟩

theorem isWord_of_mem_marks (h : w.Writes address scheme labels) (hc : c ∈ w.marks) :
    isWord c = false := by
  obtain ⟨slashes, user, hmarks, hslashes, huser⟩ := h.marks
  cases hbreak : isBreak c with
  | true => exact isWord_of_isOuter (isOuter_of_isBreak hbreak)
  | false =>
      have hmem : c ∈ unbroken w.marks := List.mem_filter.mpr ⟨hc, by rw [hbreak]; rfl⟩
      rw [hmarks, List.mem_append] at hmem
      rcases hmem with hslash | hmem
      · rcases hslashes c hslash with rfl | rfl <;> decide
      · have hcases : c = ':' ∨ c = '@' := by
          rcases huser with rfl | rfl | rfl
          · cases hmem
          · exact .inr (List.mem_singleton.mp hmem)
          · simpa using hmem
        rcases hcases with rfl | rfl <;> decide

/-- A host is not empty, and is not read on with slashes. -/
theorem head?_host (h : w.Writes address scheme labels) :
    ∀ c ∈ (w.host ++ w.rest).head?, c ∉ "//".toList := by
  intro c hc hslash
  have hne : w.host ≠ [] := by
    intro hnil
    have hdomain := h.domain
    rw [hnil] at hdomain
    cases hdomain
  obtain ⟨first, more, hhost⟩ := List.exists_cons_of_ne_nil hne
  have hfree := h.host first (by rw [hhost]; exact List.mem_cons_self)
  obtain rfl : first = c := by simpa [hhost] using hc
  obtain rfl : first = '/' := by simpa using hslash
  cases hfree

/-- The text of an address gives the scheme for a name. -/
theorem ofStart?_scheme (h : w.Writes address scheme labels)
    (hweb : scheme = "http" ∨ scheme = "https") (cs : List Char) :
    ofStart? (w.scheme ++ ':' :: cs) = some (titled w.scheme) := by
  obtain ⟨first, second, more, hscheme, hword, hw⟩ := exists_scheme h hweb
  have hcolon : ∀ c ∈ (':' :: cs).head?, isWord c = false ∧ c ≠ '.' := by
    simp only [List.head?_cons, Option.mem_def, Option.some.injEq, forall_eq']
    decide
  have hend : (':' :: cs).takeWhile isHostChar = [] := rfl
  have hkept : withoutWww w.scheme = w.scheme := by
    apply if_neg
    rintro ⟨hwww, -⟩
    rw [hscheme] at hwww
    exact hw (List.cons_prefix_cons.mp
      (show 'w' :: "ww.".toList <+: first :: second :: more from hwww)).1.symm
  have hnamed : isNamed w.scheme [] = true := by simp [hscheme, isNamed, hword]
  rw [ofStart?_append (isHostChar_of_mem_scheme h hweb) hcolon, hend, hkept, if_pos hnamed,
    List.append_nil]

/-- The host is looked for after two slashes, and found only if nothing else follows the colon. -/
theorem ofStart?_marks (h : w.Writes address scheme labels) :
    (if "//".toList <+: w.marks then
        ofStart? ((w.marks ++ (w.host ++ w.rest)).drop 2) else none) =
      if w.marks = "//".toList then ofStart? (w.host ++ w.rest) else none := by
  by_cases hslashes : "//".toList <+: w.marks
  · rw [if_pos hslashes]
    obtain ⟨more, hmore⟩ := hslashes
    cases more with
    | nil =>
        rw [List.append_nil] at hmore
        rw [if_pos hmore.symm, ← hmore]
        rfl
    | cons c more =>
        have hword : isWord c = false := isWord_of_mem_marks h (hmore ▸ by simp)
        have hne : w.marks ≠ "//".toList := by
          rw [← hmore]
          simp
        have hdrop : ("//".toList ++ c :: more ++ (w.host ++ w.rest)).drop 2 =
            c :: (more ++ (w.host ++ w.rest)) := rfl
        rw [if_neg hne, ← hmore, hdrop, ofStart?_of_not_isWord hword]
  · have hne : w.marks ≠ "//".toList := fun heq => hslashes (heq ▸ List.prefix_rfl)
    rw [if_neg hslashes, if_neg hne]

/-- What is found after a scheme that is written so. -/
theorem ofStart?_afterScheme (h : w.Writes address scheme labels)
    (hweb : scheme = "http" ∨ scheme = "https") (name : List Char) (hname : ':' ∉ name) :
    (if name ++ "://".toList <+: w.scheme ++ ':' :: (w.marks ++ (w.host ++ w.rest)) then
        ofStart? ((w.scheme ++ ':' :: (w.marks ++ (w.host ++ w.rest))).drop (name.length + 3))
        else none) =
      if w.scheme = name ∧ w.marks = "//".toList then ofStart? (w.host ++ w.rest) else none := by
  have hcolon : ':' ∉ w.scheme := fun hmem => by
    have hchar := isHostChar_of_mem_scheme h hweb _ hmem
    cases hchar
  have hbegin : name ++ "://".toList <+: w.scheme ++ ':' :: (w.marks ++ (w.host ++ w.rest)) ↔
      name = w.scheme ∧ "//".toList <+: w.marks :=
    (colon_prefix_iff hname hcolon).trans
      (and_congr_right fun _ => prefix_append_iff (head?_host h))
  by_cases heq : w.scheme = name
  · subst heq
    have hdrop : (w.scheme ++ ':' :: (w.marks ++ (w.host ++ w.rest))).drop (w.scheme.length + 3) =
        (w.marks ++ (w.host ++ w.rest)).drop 2 := by
      simp [List.drop_append]
    rw [hdrop]
    simp only [hbegin, true_and]
    exact ofStart?_marks h
  · rw [if_neg fun hfirst => heq (hbegin.mp hfirst).1.symm, if_neg fun hboth => heq hboth.1]

theorem isNamed_of_withoutWww {cs more : List Char} (h : isNamed (withoutWww cs) more = true) :
    isNamed cs more = true := by
  rw [withoutWww] at h
  split at h
  · next hwww =>
      obtain ⟨back, rfl⟩ := hwww.1
      rfl
  · exact h

theorem isOpened_iff :
    isOpened w = true ↔
      (w.scheme = "https".toList ∨ w.scheme = "http".toList) ∧ w.marks = "//".toList := by
  rw [isOpened, Bool.and_eq_true, Bool.or_eq_true, decide_eq_true_iff, decide_eq_true_iff,
    decide_eq_true_iff]

/-- What is tried after the schemes comes to one attempt, where the host is looked for. -/
theorem ofAddress_eq_getD (h : w.Writes address scheme labels)
    (hweb : scheme = "http" ∨ scheme = "https") (hlead : w.lead = []) :
    ofAddress address = String.ofList
      ((if isOpened w then ofStart? (w.host ++ w.rest) else none).getD (titled w.scheme)) := by
  have htext : trim address.toList = w.scheme ++ ':' :: (w.marks ++ (w.host ++ w.rest)) := by
    rw [← h.chars, WebText.chars, hlead, List.nil_append]
  have htried : ofAddress address =
      ((((if w.scheme = "https".toList ∧ w.marks = "//".toList then
          ofStart? (w.host ++ w.rest) else none).or
        ((if w.scheme = "http".toList ∧ w.marks = "//".toList then
          ofStart? (w.host ++ w.rest) else none).or
        (some (titled w.scheme)))).map String.ofList).getD unknown) := by
    rw [← ofStart?_afterScheme h hweb "https".toList (by decide),
      ← ofStart?_afterScheme h hweb "http".toList (by decide),
      ← ofStart?_scheme h hweb (w.marks ++ (w.host ++ w.rest)), ofAddress_eq, htext]
    rfl
  rw [htried]
  by_cases hopened : isOpened w = true
  · obtain ⟨hs | hs, hmarks⟩ := isOpened_iff.mp hopened
    · have hother : ¬(w.scheme = "http".toList ∧ w.marks = "//".toList) := by
        rw [hs]
        exact fun hboth => absurd hboth.1 (by decide)
      rw [if_pos hopened, if_pos ⟨hs, hmarks⟩, if_neg hother]
      cases ofStart? (w.host ++ w.rest) <;> rfl
    · have hother : ¬(w.scheme = "https".toList ∧ w.marks = "//".toList) := by
        rw [hs]
        exact fun hboth => absurd hboth.1 (by decide)
      rw [if_pos hopened, if_neg hother, if_pos ⟨hs, hmarks⟩]
      cases ofStart? (w.host ++ w.rest) <;> rfl
  · rw [if_neg hopened, if_neg fun hs => hopened (isOpened_iff.mpr ⟨.inl hs.1, hs.2⟩),
      if_neg fun hs => hopened (isOpened_iff.mpr ⟨.inr hs.1, hs.2⟩)]
    rfl

/-- An address that begins with its scheme is called after its host, or else after its scheme. -/
theorem ofAddress_of_lead_nil (h : w.Writes address scheme labels)
    (hweb : scheme = "http" ∨ scheme = "https") (hlead : w.lead = []) :
    ofAddress address = String.ofList (called w) := by
  have hhost := ofStart?_append (fun c hc => isHostChar_of_endsHost (h.host c hc)) (head?_rest h)
  rw [ofAddress_eq_getD h hweb hlead, called, if_neg (not_not.mpr hlead), isReached]
  cases hopened : isOpened w with
  | false => rfl
  | true =>
      rw [if_pos rfl, hhost, Bool.true_and]
      by_cases hnamed : isNamed (withoutWww w.host) (w.rest.takeWhile isHostChar) = true
      · rw [if_pos hnamed, tail, if_pos (isNamed_of_withoutWww hnamed), if_pos hnamed]
        rfl
      · rw [if_neg hnamed, tail, if_neg hnamed]
        split
        · rfl
        · rfl

/-- Where other characters come first nothing is found. -/
theorem ofAddress_of_lead_cons (h : w.Writes address scheme labels) (hlead : w.lead ≠ []) :
    ofAddress address = unknown := by
  obtain ⟨first, more, hfirst⟩ := List.exists_cons_of_ne_nil hlead
  have hword : isWord first = false :=
    isWord_of_isOuter (h.lead first (by rw [hfirst]; exact List.mem_cons_self))
  obtain ⟨back, htext⟩ : ∃ back, trim address.toList = first :: back := by
    rw [← h.chars, WebText.chars, hfirst]
    exact ⟨_, rfl⟩
  have hscheme (mark : List Char) : ¬ 'h' :: mark <+: first :: back := by
    intro hbegin
    obtain ⟨rfl, -⟩ := List.cons_prefix_cons.mp hbegin
    cases hword
  rw [ofAddress_eq, htext, ofStart?_of_not_isWord hword,
    if_neg (show ¬ "https://".toList <+: first :: back from hscheme "ttps://".toList),
    if_neg (show ¬ "http://".toList <+: first :: back from hscheme "ttp://".toList)]
  rfl

theorem ofAddress_eq_called (h : w.Writes address scheme labels)
    (hweb : scheme = "http" ∨ scheme = "https") :
    ofAddress address = String.ofList (called w) := by
  by_cases hlead : w.lead = []
  · exact ofAddress_of_lead_nil h hweb hlead
  · rw [ofAddress_of_lead_cons h hlead, called, if_pos hlead, String.ofList_toList]

end Parts

section Right

variable {w : WebText} {address scheme : String} {labels : List (List Char)} {cs : List Char}

theorem length_uppercase_le (c : Char) : (uppercase c).length ≤ 3 := by
  have hrows : ∀ row ∈ uppercaseRows, row.2.length ≤ 3 := by decide
  unfold uppercase
  split
  · simp
  · split
    · next sequence hfind =>
        have hmem := SearchTree.mem_toList_of_find? hfind
        rw [toList_uppercaseSequences] at hmem
        rw [List.length_map]
        exact hrows _ hmem
    · simp

/-- No host is called what is not known. -/
theorem titled_ne_unknown (hspace : ' ' ∉ cs) : titled cs ≠ unknown.toList := by
  cases cs with
  | nil => exact fun h => absurd h (by decide)
  | cons c more =>
      intro h
      have hmore : more = unknown.toList.drop (uppercase c).length := by
        rw [← h, titled, List.drop_left]
      have hall : ∀ n ≤ 3, ' ' ∈ unknown.toList.drop n := by decide
      apply hspace
      rw [hmore]
      exact List.mem_cons_of_mem _ (hall _ (length_uppercase_le c))

theorem space_not_mem_withoutWww (h : w.Writes address scheme labels) :
    ' ' ∉ withoutWww w.host := by
  have hbarred : DomainName.IsBarred ' ' :=
    DomainName.isBarred_of_isForbidden (by decide) (by decide)
  have hhost : ' ' ∉ w.host := fun hmem =>
    Host.not_mem_of_ofDomain hbarred h.domain (List.mem_filter.mpr ⟨hmem, by decide⟩)
  rw [withoutWww]
  split
  · exact fun hmem => hhost (List.mem_of_mem_drop hmem)
  · exact hhost

theorem length_titled_le (cs : List Char) : (titled cs).length ≤ cs.length + 2 := by
  cases cs with
  | nil => simp [titled]
  | cons c more =>
      have hfirst := length_uppercase_le c
      simp only [titled, List.length_append, List.length_cons]
      omega

/-- With `www.` a name is longer than the one without it. -/
theorem titled_append_ne (hne : withoutWww cs ≠ cs) (back : List Char) :
    titled cs ++ back ≠ titled (withoutWww cs) := by
  have hwww : "www.".toList <+: cs ∧ cs.drop 4 ≠ [] := by
    by_contra hnot
    exact hne (if_neg hnot)
  have hkept : withoutWww cs = cs.drop 4 := if_pos hwww
  obtain ⟨⟨more, rfl⟩, -⟩ := hwww
  intro h
  have hlength := congrArg List.length h
  have hle := length_titled_le more
  have hmore : ("www.".toList ++ more).drop 4 = more := rfl
  have hlong : (titled ("www.".toList ++ more)).length = more.length + 4 := by
    have htitled : titled ("www.".toList ++ more) = "Www.".toList ++ more := rfl
    have hfour : "Www.".toList.length = 4 := rfl
    rw [htitled, List.length_append, hfour, Nat.add_comm]
  rw [hkept, hmore, List.length_append, hlong] at hlength
  omega

/-- When the name is the host without `www.`, with its first character in upper case. -/
theorem called_eq_titled_iff (h : w.Writes address scheme labels) :
    called w = titled (withoutWww w.host) ↔ IsPlain w ∨ IsEcho w := by
  constructor
  · intro heq
    by_cases hlead : w.lead = []
    · rw [called, if_neg (not_not.mpr hlead)] at heq
      by_cases hreached : isReached w = true
      · rw [if_pos hreached] at heq
        by_cases hnamed : isNamed (withoutWww w.host) (tail w) = true
        · rw [if_pos hnamed] at heq
          have htail : tail w = [] := by simpa using heq
          exact .inl ⟨hlead, (Bool.and_eq_true_iff.mp hreached).1, htail ▸ hnamed, htail⟩
        · -- The host is a name although it is none without `www.`.
          rw [if_neg hnamed] at heq
          have hne : withoutWww w.host ≠ w.host := by
            intro hsame
            rw [hsame] at hnamed
            exact hnamed (Bool.and_eq_true_iff.mp hreached).2
          exact absurd heq (titled_append_ne hne (tail w))
      · rw [if_neg hreached] at heq
        exact .inr ⟨hlead, Bool.eq_false_iff.mpr hreached, heq⟩
    · rw [called, if_pos hlead] at heq
      exact absurd heq.symm (titled_ne_unknown (space_not_mem_withoutWww h))
  · rintro (hplain | hecho)
    · have hnamed : isNamed (withoutWww w.host) (tail w) = true := hplain.tail ▸ hplain.named
      have hreached : isReached w = true := by
        rw [isReached, hplain.opened, isNamed_of_withoutWww hnamed]
        rfl
      rw [called, if_neg (not_not.mpr hplain.lead), if_pos hreached, if_pos hnamed, hplain.tail,
        List.append_nil]
    · rw [called, if_neg (not_not.mpr hecho.lead), hecho.missed, if_neg Bool.false_ne_true,
        hecho.alike]

/-- An address of the web with a domain and without a user can be written with any case of its
scheme, other marks than slashes and other characters around and in it. It is called after its
host as written, without `www.` and with its first character in upper case, exactly when it is
plain, or when it is called after its scheme and the host looks like that. -/
theorem ofAddress_written (h : Address.read address = .ok ⟨scheme, .domain labels⟩)
    (hweb : scheme = "http" ∨ scheme = "https")
    (huser : ∀ user ∈ userOf address, user = [] ∨ user = [':']) :
    (∃ w : WebText, w.Writes address scheme labels) ∧
    ∀ w : WebText, w.Writes address scheme labels →
      ofAddress address = String.ofList (called w) ∧
      (ofAddress address = String.ofList (titled (withoutWww w.host)) ↔
        IsPlain w ∨ IsEcho w) := by
  refine ⟨WebText.exists_writes h hweb huser, fun w hw => ?_⟩
  have hcalled := ofAddress_eq_called hw hweb
  refine ⟨hcalled, ?_⟩
  rw [hcalled, String.ofList_inj]
  exact called_eq_titled_iff hw

def pangaeaLabels : List (List Char) := ["www".toList, "pangaea".toList, "de".toList]

theorem ofDomain_pangaea :
    Host.ofDomain "www.pangaea.de".toList = .ok (.domain pangaeaLabels) := by
  have hmapped : "www.pangaea.de".toList.mapM DomainName.mapChar? =
      some ("www.pangaea.de".toList.map fun c => [c]) := by decide
  have hlabels : DomainName.labels? "www.pangaea.de".toList = some pangaeaLabels :=
    DomainName.labels?_of_ascii hmapped (by decide +kernel) (by decide)
  rw [Host.ofDomain_of_labels? (s := "www.pangaea.de") rfl (by decide) hlabels]
  decide

theorem read_pangaea (address : String) (after : List Char)
    (hsplit : splitScheme? (cleaned address) = some ("https", after))
    (hhost : hostText false (splitUser (authority after)).2 = "www.pangaea.de".toList)
    (hport : isPort (((splitUser (authority after)).2.drop 14).takeWhile (· ≠ '\\')) = true) :
    Address.read address = .ok ⟨"https", .domain pangaeaLabels⟩ := by
  rw [read_eq_ok_iff (.inr rfl)]
  refine ⟨after, hsplit, ?_⟩
  rw [hostOf_eq_domain_iff, hhost]
  exact ⟨ofDomain_pangaea, hport⟩

theorem writes_pangaea (address : String) (written rest : List Char)
    (hchars : written ++ "://www.pangaea.de".toList ++ rest = trim address.toList)
    (hbegins : ∀ c ∈ written.head?, isOuter c = false)
    (hscheme : (unbroken written).map Char.toLower = "https".toList)
    (hrest : ∀ c ∈ (rest.dropWhile isOuter).head?, endsHost c = true) :
    (WebText.mk [] written "//".toList "www.pangaea.de".toList rest).Writes address "https"
      pangaeaLabels := by
  constructor
  case chars =>
    rw [← hchars, List.append_assoc]
    rfl
  case lead => exact nofun
  case begins => exact hbegins
  case scheme => exact hscheme
  case marks => exact ⟨"//".toList, [], rfl, by simp, .inl rfl⟩
  case host =>
    intro c hc
    have hall : ("www.pangaea.de".toList.all fun c => !endsHost c) = true := by decide
    simpa using List.all_eq_true.mp hall c hc
  case outer =>
    constructor
    · rintro c ⟨⟩
      rfl
    · rintro c ⟨⟩
      rfl
  case domain => exact ofDomain_pangaea
  case rest => exact hrest

/-- With a blank before it and a port an address is still plain. -/
theorem ofAddress_written_pangaea :
    Address.read " https://www.pangaea.de:443/oai" = .ok ⟨"https", .domain pangaeaLabels⟩ ∧
    userOf " https://www.pangaea.de:443/oai" = none ∧
    ofAddress " https://www.pangaea.de:443/oai" = "Pangaea.de" := by
  have hread : Address.read " https://www.pangaea.de:443/oai" =
      .ok ⟨"https", .domain pangaeaLabels⟩ := by
    apply read_pangaea _ "//www.pangaea.de:443/oai".toList <;> decide
  have huser : userOf " https://www.pangaea.de:443/oai" = none := by decide
  have hw := writes_pangaea " https://www.pangaea.de:443/oai" "https".toList ":443/oai".toList
    (by decide) (by rintro c ⟨⟩; rfl) (by decide) (by rintro c ⟨⟩; rfl)
  refine ⟨hread, huser, ?_⟩
  have hname := ((ofAddress_written hread (.inr rfl) (by rw [huser]; exact nofun)).2 _ hw).2
  rw [hname.mpr (.inl ⟨rfl, by decide, by decide, by decide⟩)]
  decide

/-- With its scheme in upper case the same address is called after the scheme. -/
theorem not_ofAddress_titled :
    ¬∀ (address scheme : String) (labels : List (List Char)) (w : WebText),
      Address.read address = .ok ⟨scheme, .domain labels⟩ →
      (scheme = "http" ∨ scheme = "https") →
      (∀ user ∈ userOf address, user = [] ∨ user = [':']) →
      w.Writes address scheme labels →
      ofAddress address = String.ofList (titled (withoutWww w.host)) := by
  intro h
  have hread : Address.read "HTTPS://www.pangaea.de/oai" =
      .ok ⟨"https", .domain pangaeaLabels⟩ := by
    apply read_pangaea _ "//www.pangaea.de/oai".toList <;> decide
  have huser : userOf "HTTPS://www.pangaea.de/oai" = none := by decide
  have hw := writes_pangaea "HTTPS://www.pangaea.de/oai" "HTTPS".toList "/oai".toList
    (by decide) (by rintro c ⟨⟩; rfl) (by decide) (by rintro c ⟨⟩; rfl)
  have hname := h _ _ _ _ hread (.inr rfl) (by rw [huser]; exact nofun) hw
  exact absurd hname (by decide)

end Right

end MetadataHarvest.HostName
