import MetadataHarvest.Proofs.Text.Scan
import MetadataHarvest.Proofs.Text.Trim
import MetadataHarvest.Proofs.Url.Domain
import MetadataHarvest.Url.Address

/-!
# Addresses as they are written

An address is read without control characters around it and without line breaks and tabs in it, so
its parts can be written in more than one way. Of an address of the web without a user that names a
domain, the parts are given here as they are written, and each such address has them.
-/

namespace MetadataHarvest.Url

open Text

/-- Characters without which an address is read. -/
def isBreak (c : Char) : Bool := c == '\t' || c == '\n' || c == '\r'

/-- A text without line breaks and tabs. -/
def unbroken (cs : List Char) : List Char := cs.filter (!isBreak ·)

/-- Whether a character may be around an address. -/
def isOuter (c : Char) : Bool := c.toNat ≤ 0x20

/-- The marks after which a host ends. -/
def endsHost (c : Char) : Bool := c == ':' || SchemeKind.web.endsAuthority c

/-- The marks that an address of the web has after its scheme. -/
def isSlash (c : Char) : Bool := c == '/' || c == '\\'

/-- The host and what stands before its path, after the slashes. -/
def authority (cs : List Char) : List Char :=
  (cs.dropWhile isSlash).takeWhile (!SchemeKind.web.endsAuthority ·)

/-- The user of an address of the web, if an at sign follows one. -/
def userOf (address : String) : Option (List Char) :=
  (splitScheme? (cleaned address)).bind fun parts => (splitUser (authority parts.2)).1

/-- The parts of an address of the web. -/
structure WebText where
  lead : List Char
  scheme : List Char
  marks : List Char
  host : List Char
  rest : List Char

namespace WebText

def chars (w : WebText) : List Char :=
  w.lead ++ (w.scheme ++ ':' :: (w.marks ++ (w.host ++ w.rest)))

/-- The parts write an address: the host stands where the reader finds it and is written without
what is around it. -/
structure Writes (w : WebText) (address scheme : String) (labels : List (List Char)) : Prop where
  chars : w.chars = trim address.toList
  lead : ∀ c ∈ w.lead, isOuter c = true
  begins : ∀ c ∈ w.scheme.head?, isOuter c = false
  scheme : (unbroken w.scheme).map Char.toLower = scheme.toList
  marks : ∃ slashes user, unbroken w.marks = slashes ++ user ∧
    (∀ c ∈ slashes, c = '/' ∨ c = '\\') ∧ (user = [] ∨ user = "@".toList ∨ user = ":@".toList)
  host : ∀ c ∈ w.host, endsHost c = false
  outer : (∀ c ∈ w.host.head?, isBreak c = false) ∧ ∀ c ∈ w.host.getLast?, isBreak c = false
  domain : Host.ofDomain (unbroken w.host) = .ok (.domain labels)
  rest : ∀ c ∈ (w.rest.dropWhile isOuter).head?, endsHost c = true

end WebText

section Existence

variable {address scheme : String} {labels : List (List Char)} {cs : List Char}

theorem cleaned_eq (address : String) :
    cleaned address = unbroken (trimWhile isOuter (trim address.toList)) := by
  rw [cleaned, unbroken]
  congr 1
  funext c
  simp [isBreak, bne, Bool.not_or]

theorem eq_false_of_mem_head?_dropWhile {p : Char → Bool} {c : Char}
    (h : c ∈ (cs.dropWhile p).head?) : p c = false := by
  have hhead := List.head?_dropWhile_not p cs
  rw [Option.mem_def.mp h] at hhead
  exact hhead

/-- What a text has before its host, as far as the last at sign. -/
def userPart (user : Option (List Char)) : List Char := user.elim [] (· ++ ['@'])

theorem userPart_append (cs : List Char) :
    userPart (splitUser cs).1 ++ (splitUser cs).2 = cs := by
  rw [splitUser]
  split
  · next hat =>
      have hmem : '@' ∈ cs.reverse := by simpa using hat
      obtain ⟨host, user, hcs, hfree⟩ := List.eq_append_cons_of_mem hmem
      have hhost : ∀ c ∈ host, decide (c ≠ '@') = true := fun c hc =>
        decide_eq_true fun heq => hfree (heq ▸ hc)
      have hstop : ∀ c ∈ ('@' :: user).head?, decide (c ≠ '@') = false := by simp
      simp only [userPart, hcs, takeWhile_append_of_head? hhost hstop,
        dropWhile_append_of_head? hhost hstop, List.drop_one, List.tail_cons, Option.elim_some]
      rw [← List.reverse_reverse cs, hcs]
      simp
  · rfl

theorem splitScheme?_eq_some {scheme : String} {rest : List Char}
    (h : splitScheme? cs = some (scheme, rest)) :
    ∃ written, cs = written ++ ':' :: rest ∧ written.map Char.toLower = scheme.toList := by
  simp only [splitScheme?] at h
  split at h
  · next first more rest' hwritten hrest =>
      obtain ⟨-, hparts⟩ := Option.ite_none_right_eq_some.mp h
      obtain ⟨rfl, rfl⟩ := Prod.mk.inj (Option.some.inj hparts)
      refine ⟨_, ?_, String.toList_ofList.symm⟩
      rw [← hrest]
      exact (List.prefix_iff_eq_append.mp (List.takeWhile_prefix _)).symm
  · cases h

/-- Without brackets a host ends at the first colon. -/
theorem hostText_eq_takeWhile (h : '[' ∉ hostText false cs) :
    hostText false cs = cs.takeWhile (· ≠ ':') := by
  induction cs with
  | nil => rfl
  | cons c cs ih =>
      by_cases hc : c = ':'
      · simp [hostText, hc]
      · have hopen : c ≠ '[' := by
          rintro rfl
          simp [hostText] at h
        have hnext : hostText false (c :: cs) = c :: hostText false cs := by
          simp [hostText, hc, hopen]
        rw [hnext, List.mem_cons, not_or] at h
        rw [hnext, ih h.2]
        simp [hc]

/-- A domain is what the host is read as, and a port is all that can be wrong besides. -/
theorem hostOf_eq_domain_iff :
    hostOf .web cs = .ok (.domain labels) ↔
      Host.ofDomain (hostText false (splitUser cs).2) = .ok (.domain labels) ∧
      isPort (((splitUser cs).2.drop (hostText false (splitUser cs).2).length).takeWhile
        (· ≠ '\\')) = true := by
  constructor
  · intro h
    cases hhost : Host.ofDomain (hostText false (splitUser cs).2) with
    | error fault =>
        simp only [hostOf, hhost, if_true] at h
        split at h
        · cases h
        · cases h
    | ok host =>
        simp only [hostOf, hhost, if_true, bind, Except.bind] at h
        -- Each check that follows refuses the address or leaves the host as it is.
        split at h
        · cases h
        · split at h
          · cases h
          · split at h
            · cases h
            · next hport =>
                split at h
                · cases h
                · exact ⟨h, by simpa using hport⟩
  · rintro ⟨hdomain, hport⟩
    have hne : (hostText false (splitUser cs).2).isEmpty = false := by
      cases hempty : (hostText false (splitUser cs).2).isEmpty with
      | false => rfl
      | true =>
          rw [List.isEmpty_iff.mp hempty] at hdomain
          cases hdomain
    simp only [hostOf, hdomain, hport, hne, bind, Except.bind, reduceCtorEq, decide_false,
      Bool.and_false, Bool.false_and, Bool.not_true, Bool.false_eq_true, if_false, if_true]
    rfl

/-- The parts of a text after the scheme of an address of the web that names a domain. -/
theorem exists_parts (h : hostOf .web (authority cs) = .ok (.domain labels)) :
    ∃ slashes host rest,
      cs = slashes ++ (userPart (splitUser (authority cs)).1 ++ (host ++ rest)) ∧
      (∀ c ∈ slashes, c = '/' ∨ c = '\\') ∧ (∀ c ∈ host, endsHost c = false) ∧
      Host.ofDomain host = .ok (.domain labels) ∧ ∀ c ∈ rest.head?, endsHost c = true := by
  have hdomain : Host.ofDomain (hostText false (splitUser (authority cs)).2) =
      .ok (.domain labels) := (hostOf_eq_domain_iff.mp h).1
  have hbracket : '[' ∉ hostText false (splitUser (authority cs)).2 :=
    Host.not_mem_of_ofDomain (DomainName.isBarred_of_isForbidden (by decide) (by decide)) hdomain
  rw [hostText_eq_takeWhile hbracket] at hdomain
  refine ⟨cs.takeWhile isSlash, _,
    (splitUser (authority cs)).2.dropWhile (· ≠ ':') ++
      (cs.dropWhile isSlash).dropWhile (!SchemeKind.web.endsAuthority ·),
    ?_, fun c hc => ?_, fun c hc => ?_, hdomain, fun c hc => ?_⟩
  · have hslash : cs.takeWhile isSlash ++ cs.dropWhile isSlash = cs :=
      List.takeWhile_append_dropWhile
    have hpath : authority cs ++ (cs.dropWhile isSlash).dropWhile
        (!SchemeKind.web.endsAuthority ·) = cs.dropWhile isSlash :=
      List.takeWhile_append_dropWhile
    have hport : (splitUser (authority cs)).2.takeWhile (· ≠ ':') ++
        (splitUser (authority cs)).2.dropWhile (· ≠ ':') = (splitUser (authority cs)).2 :=
      List.takeWhile_append_dropWhile
    rw [← List.append_assoc (List.takeWhile _ _) (List.dropWhile _ _), hport,
      ← List.append_assoc (userPart _), userPart_append, hpath, hslash]
  · simpa [isSlash] using List.mem_takeWhile_imp hc
  · have hcolon := List.mem_takeWhile_imp hc
    have hin : c ∈ authority cs := by
      rw [← userPart_append (authority cs)]
      exact List.mem_append_right _ ((List.takeWhile_prefix _).subset hc)
    have hbefore := List.mem_takeWhile_imp hin
    simp_all [endsHost]
  · rw [List.head?_append] at hc
    rcases Option.or_eq_some_iff.mp hc with hport | ⟨-, hpath⟩
    · have hcolon := eq_false_of_mem_head?_dropWhile hport
      simp_all [endsHost]
    · have hends := eq_false_of_mem_head?_dropWhile hpath
      simp_all [endsHost]

theorem unbroken_append (front back : List Char) :
    unbroken (front ++ back) = unbroken front ++ unbroken back :=
  List.filter_append _ _

theorem unbroken_of_breaks (h : ∀ c ∈ cs, isBreak c = true) : unbroken cs = [] := by
  rw [unbroken, List.filter_eq_nil_iff]
  intro c hc
  simp [h c hc]

theorem isOuter_of_isBreak {c : Char} (h : isBreak c = true) : isOuter c = true := by
  simp only [isBreak, Bool.or_eq_true, beq_iff_eq] at h
  rcases h with (rfl | rfl) | rfl <;> decide

theorem endsHost_of_isOuter {c : Char} (h : isOuter c = true) : endsHost c = false := by
  cases hends : endsHost c with
  | false => rfl
  | true =>
      simp only [endsHost, SchemeKind.endsAuthority, Bool.or_eq_true, Bool.and_eq_true,
        beq_iff_eq] at hends
      rcases hends with rfl | ((rfl | rfl) | rfl) | ⟨rfl, -⟩ <;> cases h

/-- A text whose unbroken form has two parts has them too. -/
theorem exists_append_of_unbroken {front back : List Char} (h : unbroken cs = front ++ back) :
    ∃ f b, cs = f ++ b ∧ unbroken f = front ∧ unbroken b = back :=
  List.filter_eq_append_iff.mp h

/-- A text whose unbroken form begins with a character has it after breaks. -/
theorem exists_cons_of_unbroken {c : Char} {back : List Char} (h : unbroken cs = c :: back) :
    ∃ gap b, cs = gap ++ c :: b ∧ (∀ d ∈ gap, isBreak d = true) ∧ unbroken b = back := by
  obtain ⟨gap, b, hcs, hgap, -, hb⟩ := List.filter_eq_cons_iff.mp h
  exact ⟨gap, b, hcs, fun d hd => by simpa using hgap d hd, hb⟩

theorem head?_trimWhile (p : Char → Bool) (cs : List Char) :
    ∀ c ∈ (trimWhile p cs).head?, p c = false := by
  intro c hc
  rw [trimWhile, ← dropWhile_dropWhileEnd_dropWhile] at hc
  exact eq_false_of_mem_head?_dropWhile hc

theorem getLast?_trimWhile (p : Char → Bool) (cs : List Char) :
    ∀ c ∈ (trimWhile p cs).getLast?, p c = false := by
  intro c hc
  rw [trimWhile, dropWhileEnd, List.getLast?_reverse] at hc
  exact eq_false_of_mem_head?_dropWhile hc

/-- A text is what is left of it without the breaks around it, and these breaks. -/
theorem exists_inner (cs : List Char) :
    ∃ front inner back, cs = front ++ (inner ++ back) ∧ (∀ c ∈ front, isBreak c = true) ∧
      (∀ c ∈ back, isBreak c = true) ∧ unbroken inner = unbroken cs ∧
      (∀ c ∈ inner.head?, isBreak c = false) ∧ ∀ c ∈ inner.getLast?, isBreak c = false := by
  obtain ⟨front, back, hfront, hback, hcs⟩ := exists_trimWhile isBreak cs
  refine ⟨front, trimWhile isBreak cs, back, hcs, hfront, hback, ?_, head?_trimWhile _ _,
    getLast?_trimWhile _ _⟩
  have hparts := congrArg unbroken hcs
  rw [unbroken_append, unbroken_append, unbroken_of_breaks hfront, unbroken_of_breaks hback,
    List.nil_append, List.append_nil] at hparts
  exact hparts.symm

/-- Whatever follows the host, after characters that may be around an address a mark comes first. -/
theorem head?_dropWhile_rest {after back rest : List Char}
    (hafter : ∀ c ∈ after.head?, endsHost c = true) (hrest : unbroken rest = after)
    (hback : ∀ c ∈ back, isOuter c = true) :
    ∀ c ∈ ((rest ++ back).dropWhile isOuter).head?, endsHost c = true := by
  cases after with
  | nil =>
      have hall : ∀ c ∈ rest ++ back, isOuter c = true := by
        intro c hc
        rcases List.mem_append.mp hc with hc | hc
        · apply isOuter_of_isBreak
          simpa using List.filter_eq_nil_iff.mp hrest c hc
        · exact hback c hc
      rw [List.dropWhile_eq_nil_iff.mpr hall]
      exact nofun
  | cons c after =>
      obtain ⟨gap, more, rfl, hgap, -⟩ := exists_cons_of_unbroken hrest
      have hc := hafter c rfl
      have hnot : isOuter c = false := by
        cases houter : isOuter c with
        | false => rfl
        | true =>
            rw [endsHost_of_isOuter houter] at hc
            cases hc
      have hgap' : ∀ d ∈ gap, isOuter d = true := fun d hd => isOuter_of_isBreak (hgap d hd)
      rw [List.append_assoc, List.dropWhile_append_of_pos hgap']
      simpa [hnot] using hc

theorem userPart_cases {user : Option (List Char)} (h : ∀ u ∈ user, u = [] ∨ u = [':']) :
    userPart user = [] ∨ userPart user = "@".toList ∨ userPart user = ":@".toList := by
  cases user with
  | none => exact .inl rfl
  | some u =>
      rcases h u rfl with rfl | rfl
      · exact .inr (.inl (by decide))
      · exact .inr (.inr (by decide))

/-- What the scheme and the host of an address of the web are read from. -/
theorem read_eq_ok_iff (hweb : scheme = "http" ∨ scheme = "https") :
    Address.read address = .ok ⟨scheme, .domain labels⟩ ↔
      ∃ after, splitScheme? (cleaned address) = some (scheme, after) ∧
        hostOf .web (authority after) = .ok (.domain labels) := by
  have hkind : SchemeKind.ofScheme scheme = .web := by
    rcases hweb with rfl | rfl <;> decide
  constructor
  · intro h
    unfold Address.read at h
    split at h
    · cases h
    · next found after hsplit =>
        cases hhost : hostAfterScheme (.ofScheme found) after with
        | error fault =>
            rw [hhost] at h
            cases h
        | ok host =>
            rw [hhost] at h
            obtain ⟨rfl, rfl⟩ := Address.mk.inj (Except.ok.inj h)
            have hafter : hostAfterScheme .web after = .ok (.domain labels) := hkind ▸ hhost
            exact ⟨after, hsplit, hafter⟩
  · rintro ⟨after, hsplit, hhost⟩
    have hafter : hostAfterScheme .web after = .ok (.domain labels) := hhost
    simp only [Address.read, hsplit, hkind, hafter]
    rfl

/-- Each address of the web without a user that names a domain is written so. -/
theorem WebText.exists_writes (h : Address.read address = .ok ⟨scheme, .domain labels⟩)
    (hweb : scheme = "http" ∨ scheme = "https")
    (huser : ∀ user ∈ userOf address, user = [] ∨ user = [':']) :
    ∃ w : WebText, w.Writes address scheme labels := by
  obtain ⟨after, hsplit, hhost⟩ := (read_eq_ok_iff hweb).mp h
  rw [userOf, hsplit, Option.bind_some] at huser
  obtain ⟨slashes, host, rest, hafter, hslashes, hfree, hdomain, hrest⟩ := exists_parts hhost
  obtain ⟨written, hwritten, hlower⟩ := splitScheme?_eq_some hsplit
  obtain ⟨lead, back, hlead, hback, htrim⟩ := exists_trimWhile isOuter (trim address.toList)
  -- The parts of the text that is read are found in the text that is written.
  rw [cleaned_eq, hafter] at hwritten
  obtain ⟨s, colon, hcore, hs, hcolon⟩ := exists_append_of_unbroken hwritten
  obtain ⟨gap, more, rfl, hgap, hmore⟩ := exists_cons_of_unbroken hcolon
  rw [← List.append_assoc] at hmore
  obtain ⟨marks, more, rfl, hmarks, hmore⟩ := exists_append_of_unbroken hmore
  obtain ⟨around, r, rfl, haround, hr⟩ := exists_append_of_unbroken hmore
  obtain ⟨f, inner, b, rfl, hf, hb, hinner, houter⟩ := exists_inner around
  refine ⟨⟨lead, s ++ gap, marks ++ f, inner, b ++ r ++ back⟩, ?_⟩
  constructor
  case chars =>
    rw [htrim, hcore]
    simp [WebText.chars]
  case lead => exact hlead
  case begins =>
    intro c hc
    apply head?_trimWhile isOuter (trim address.toList)
    rw [hcore, ← List.append_assoc, List.head?_append]
    exact Option.or_eq_some_iff.mpr (.inl hc)
  case scheme =>
    show (unbroken (s ++ gap)).map Char.toLower = scheme.toList
    rw [unbroken_append, hs, unbroken_of_breaks hgap, List.append_nil, hlower]
  case marks =>
    refine ⟨slashes, userPart _, ?_, hslashes, userPart_cases huser⟩
    show unbroken (marks ++ f) = _
    rw [unbroken_append, hmarks, unbroken_of_breaks hf, List.append_nil]
  case host =>
    intro c hc
    cases hbreak : isBreak c with
    | true => exact endsHost_of_isOuter (isOuter_of_isBreak hbreak)
    | false =>
        apply hfree
        rw [← haround, ← hinner]
        exact List.mem_filter.mpr ⟨hc, by rw [hbreak]; rfl⟩
  case outer => exact houter
  case domain =>
    show Host.ofDomain (unbroken inner) = _
    rw [hinner, haround, hdomain]
  case rest =>
    apply head?_dropWhile_rest hrest _ hback
    rw [unbroken_append, unbroken_of_breaks hb, List.nil_append, hr]

end Existence

end MetadataHarvest.Url
