import MetadataHarvest.Proofs.Parameters.Setting
import MetadataHarvest.Proofs.Protocol.Request

/-!
# Addresses that have a query of their own

A request is put behind the address of a repository as a query, after a question mark. This is what
the whole asks for as long as the address has no question mark itself. After one that is there
already the new question mark is a character like any other: the verb runs into the last argument
of the old query and is asked for no more, while the arguments behind it still stand on their
own. Behind a number sign all of the request belongs to the fragment.

## Implementation notes

That the verb is lost needs one fact about decoding, which is that it loses no question mark.
-/

namespace MetadataHarvest

namespace Url

open Text

namespace Form

variable {cs last : List Char} {pair : String × String}

/-- The byte of the question mark. -/
def questionMark : UInt8 := 0x3F

/-- Decoding loses no question mark. -/
theorem questionMark_mem_of_decode? {s : String} (hs : decode? cs = some s) (h : '?' ∈ cs) :
    questionMark ∈ utf8 s.toList := by
  rw [decode?_eq] at hs
  rw [utf8_of_ofUtf8? hs]
  apply mem_percentDecode (by decide) (by decide)
  rw [bytes, utf8, List.mem_flatMap]
  exact ⟨'?', List.mem_map.mpr ⟨'?', h, rfl⟩, by decide⟩

/-- The name and the value in one part of a query. -/
def decodePart (part : List Char) : Option String × Option String :=
  (decode? (part.takeWhile (· ≠ '=')), decode? ((part.dropWhile (· ≠ '=')).drop 1))

theorem decodePairs_eq (cs : List Char) :
    decodePairs cs = ((splitOn '&' cs).filter (!·.isEmpty)).map decodePart := rfl

theorem decodePairs_nil : decodePairs [] = [] := rfl

theorem splitOn_ne_nil (separator : Char) (cs : List Char) : splitOn separator cs ≠ [] := by
  cases cs with
  | nil => exact List.cons_ne_nil _ _
  | cons c cs =>
      rw [splitOn]
      split
      · exact List.cons_ne_nil _ _
      · split
        · exact List.cons_ne_nil _ _
        · exact List.cons_ne_nil _ _

theorem splitOn_append_separator (separator : Char) (front back : List Char) :
    splitOn separator (front ++ separator :: back) =
      splitOn separator front ++ splitOn separator back := by
  induction front with
  | nil => simp [splitOn]
  | cons c front ih =>
      rw [List.cons_append, splitOn, splitOn, ih]
      split
      · rw [List.cons_append]
      · cases hfront : splitOn separator front with
        | nil => exact absurd hfront (splitOn_ne_nil _ _)
        | cons part parts => rfl

/-- What stands on the two sides of an ampersand is read apart. -/
theorem decodePairs_append (front back : List Char) :
    decodePairs (front ++ '&' :: back) = decodePairs front ++ decodePairs back := by
  simp only [decodePairs_eq, splitOn_append_separator, List.filter_append, List.map_append]

theorem decodePairs_part {part : List Char} (hne : part ≠ []) (h : '&' ∉ part) :
    decodePairs part = [decodePart part] := by
  simp [decodePairs_eq, splitOn_of_not_mem h, hne]

/-- A query is its last part and what comes before that, to which nothing more can be added. -/
theorem exists_last (cs : List Char) :
    ∃ lead last, lead ++ last = cs ∧ '&' ∉ last ∧
      ∀ more, decodePairs (lead ++ more) = decodePairs lead ++ decodePairs more := by
  induction cs using List.reverseRecOn with
  | nil => exact ⟨[], [], rfl, List.not_mem_nil, fun more => rfl⟩
  | append_singleton cs c ih =>
      by_cases hc : c = '&'
      · subst hc
        refine ⟨cs ++ ['&'], [], List.append_nil _, List.not_mem_nil, fun more => ?_⟩
        rw [List.append_assoc, List.singleton_append, decodePairs_append, decodePairs_append,
          decodePairs_nil, List.append_nil]
      · obtain ⟨lead, last, rfl, hlast, hlead⟩ := ih
        refine ⟨lead, last ++ [c], (List.append_assoc _ _ _).symm, ?_, hlead⟩
        simp [hlast, Ne.symm hc]

/-- A name and a value as they are read. -/
def readPair (pair : String × String) : Option String × Option String := (some pair.1, some pair.2)

/-- Written pairs after the beginning of a part: only the first of them runs into it. -/
theorem decodePairs_run (hlast : '&' ∉ last) (pair : String × String)
    (pairs : List (String × String)) :
    decodePairs (last ++ '?' :: encodePairs (pair :: pairs)) =
      decodePart (last ++ '?' :: encodePair pair) :: pairs.map readPair := by
  have hpart : '&' ∉ last ++ '?' :: encodePair pair := by
    have hpair : '&' ∉ encodePair pair :=
      not_mem_encodePair (by decide) (by decide) (by decide) (by decide) pair
    simp [hlast, hpair]
  have hne : last ++ '?' :: encodePair pair ≠ [] := by simp
  have hencode (pairs : List (String × String)) :
      encodePairs pairs = ['&'].intercalate (pairs.map encodePair) := rfl
  cases pairs with
  | nil =>
      rw [hencode, List.map_singleton, List.intercalate_singleton, decodePairs_part hne hpart]
      rfl
  | cons next pairs =>
      have hjoin : last ++ '?' :: encodePairs (pair :: next :: pairs) =
          (last ++ '?' :: encodePair pair) ++ '&' :: encodePairs (next :: pairs) := by
        simp [hencode, List.intercalate_cons_cons]
      rw [hjoin, decodePairs_append, decodePairs_part hne hpart, decodePairs_encodePairs]
      rfl

/-- A pair that runs into the beginning of a part is not read as it was written. -/
theorem decodePart_run_ne (last : List Char) (hname : questionMark ∉ utf8 pair.1.toList)
    (hvalue : questionMark ∉ utf8 pair.2.toList) :
    decodePart (last ++ '?' :: encodePair pair) ≠ readPair pair := by
  intro h
  obtain ⟨hfirst, hsecond⟩ := Prod.mk.inj h
  by_cases hequals : '=' ∈ last
  · obtain ⟨front, back, rfl, hfront⟩ := List.eq_append_cons_of_mem hequals
    -- The question mark comes after the first equals sign.
    have hdrop : (front ++ '=' :: back ++ '?' :: encodePair pair).dropWhile (· ≠ '=') =
        '=' :: (back ++ '?' :: encodePair pair) := by
      rw [List.append_assoc]
      apply dropWhile_append_of_head?
      · intro c hc
        rw [decide_eq_true_eq]
        rintro rfl
        exact hfront hc
      · simp
    rw [hdrop, List.drop_one, List.tail_cons] at hsecond
    exact hvalue (questionMark_mem_of_decode? hsecond (by simp))
  · have htake : (last ++ '?' :: encodePair pair).takeWhile (· ≠ '=') =
        last ++ '?' :: (encodePair pair).takeWhile (· ≠ '=') := by
      rw [List.takeWhile_append_of_pos]
      · simp
      · intro c hc
        rw [decide_eq_true_eq]
        rintro rfl
        exact hequals hc
    rw [htake] at hfirst
    exact hname (questionMark_mem_of_decode? hfirst (by simp))

end Form

end Url

namespace Protocol

open Text Url

/-- The part of an address between its first question mark and the next number sign. -/
def queryOf (url : List Char) : List Char :=
  ((url.dropWhile (· ≠ '?')).drop 1).takeWhile (· ≠ '#')

/-- The names and values for which an address asks. -/
def asked (url : String) : List (Option String × Option String) :=
  Form.decodePairs (queryOf url.toList)

namespace Request

/-- The address of a request at a repository. -/
def build (address : String) : Request → Except ConfigurationError String
  | listRecords name since upTo => listRecordsUrl address name since upTo
  | resumption token => requestUrl address (.resumption token)
  | listMetadataFormats => requestUrl address .listMetadataFormats
  | identify => requestUrl address .identify

/-- The pairs for which a request is to ask. -/
def intended : Request → List (String × String)
  | listRecords name since upTo =>
    ("verb", "ListRecords") ::
      (given "from" since ++ given "until" upTo ++ [("metadataPrefix", trimmed name)])
  | resumption token => [("verb", "ListRecords"), ("resumptionToken", token)]
  | listMetadataFormats => [("verb", "ListMetadataFormats")]
  | identify => [("verb", "Identify")]

/-- Whether a request for records names a format. -/
def IsNamed : Request → Prop
  | listRecords name _ _ => trimmed name ≠ ""
  | _ => True

/-- At an address without outer blanks each request is built as the address and a query. -/
theorem exists_build {host : String} (htrimmed : trimmed host = host) (hne : host ≠ "")
    {r : Request} (hr : r.IsNamed) :
    ∃ arguments, r.intended = ("verb", r.verb) :: arguments ∧
      r.build host = .ok (String.ofList
        (host.toList ++ '?' :: Form.encodePairs (("verb", r.verb) :: arguments))) := by
  have hshown : trimmed host ≠ "" := htrimmed.symm ▸ hne
  have hurl (r : Request) : r.url host = String.ofList
      (host.toList ++ '?' :: Form.encodePairs (("verb", r.verb) :: r.arguments)) := by
    apply String.toList_injective
    simp [url]
  have hrequest (r : Request) : requestUrl host r = .ok (r.url host) := by
    rw [requestUrl_of_shown hshown, htrimmed]
  cases r with
  | listRecords name since upTo =>
      have hlist := listRecordsUrl_of_nonBlank? (nonBlank?_of_shown hshown)
        (nonBlank?_of_shown hr) since upTo
      rw [htrimmed, hurl] at hlist
      refine ⟨_, rfl, ?_⟩
      rw [build, hlist, ← bound_eq_given, ← bound_eq_given]
      rfl
  | resumption token => exact ⟨_, rfl, (hrequest _).trans (congrArg Except.ok (hurl _))⟩
  | listMetadataFormats => exact ⟨_, rfl, (hrequest _).trans (congrArg Except.ok (hurl _))⟩
  | identify => exact ⟨_, rfl, (hrequest _).trans (congrArg Except.ok (hurl _))⟩

/-- No verb has a question mark. -/
theorem questionMark_not_mem_verb (r : Request) :
    Form.questionMark ∉ utf8 "verb".toList ∧ Form.questionMark ∉ utf8 r.verb.toList := by
  refine ⟨by decide, ?_⟩
  cases r with
  | listRecords name since upTo => exact (by decide : Form.questionMark ∉ utf8 "ListRecords".toList)
  | resumption token => exact (by decide : Form.questionMark ∉ utf8 "ListRecords".toList)
  | listMetadataFormats =>
      exact (by decide : Form.questionMark ∉ utf8 "ListMetadataFormats".toList)
  | identify => exact (by decide : Form.questionMark ∉ utf8 "Identify".toList)

end Request

section Query

variable {front rest : List Char}

/-- A query begins behind the first question mark. -/
theorem queryOf_append (h : '?' ∉ front) (rest : List Char) :
    queryOf (front ++ '?' :: rest) = rest.takeWhile (· ≠ '#') := by
  have hdrop : (front ++ '?' :: rest).dropWhile (· ≠ '?') = '?' :: rest := by
    apply dropWhile_append_of_head?
    · intro c hc
      rw [decide_eq_true_eq]
      rintro rfl
      exact h hc
    · simp
  rw [queryOf, hdrop, List.drop_one, List.tail_cons]

theorem takeWhile_of_numberSign_not_mem (h : '#' ∉ rest) : rest.takeWhile (· ≠ '#') = rest := by
  rw [List.takeWhile_eq_self_iff]
  intro c hc
  rw [decide_eq_true_eq]
  rintro rfl
  exact h hc

/-- What stands before a number sign is not changed by what stands behind it. -/
theorem takeWhile_of_numberSign_mem (h : '#' ∈ front) (rest : List Char) :
    (front ++ rest).takeWhile (· ≠ '#') = front.takeWhile (· ≠ '#') := by
  obtain ⟨before, after, rfl, hbefore⟩ := List.eq_append_cons_of_mem h
  have hall : ∀ c ∈ before, decide (c ≠ '#') = true := by
    intro c hc
    rw [decide_eq_true_eq]
    rintro rfl
    exact hbefore hc
  rw [List.append_assoc, takeWhile_append_of_head? hall (by simp),
    takeWhile_append_of_head? hall (by simp)]

end Query

/-- What the requests at an address that was set ask for. An address without a question mark is
asked for the intended pairs and no others. Behind a question mark of the address either nothing
of the request is asked for, when a number sign follows, or the arguments are asked for but not the
verb, which has run into what the address had asked for last. And behind a number sign the request
changes nothing before the fragment. -/
theorem asked_of_set {p q : Parameters} {value host : String} {changed : Bool}
    (hset : p.set .hostUrl value = .ok (q, changed)) (hhost : q.hostUrl = some host)
    {r : Request} (hr : r.IsNamed) :
    ∃ url, r.build host = .ok url ∧
      ('?' ∉ host.toList → asked url = r.intended.map Form.readPair) ∧
      (∀ front own, host.toList = front ++ '?' :: own → '?' ∉ front →
        ('#' ∈ own → asked url = asked host) ∧
        ('#' ∉ own → ∃ brought run, brought <+: asked host ∧ run ≠ Form.readPair ("verb", r.verb) ∧
          asked url = brought ++ run :: r.intended.tail.map Form.readPair)) ∧
      ('#' ∈ host.toList →
        url.toList.takeWhile (· ≠ '#') = host.toList.takeWhile (· ≠ '#')) := by
  have hkept : Parameters.keptValue .hostUrl value = .ok (some host) := by
    cases hvalue : Parameters.keptValue .hostUrl value with
    | error cause =>
        rw [Parameters.set_of_keptValue_error hvalue] at hset
        cases hset
    | ok kept =>
        rw [Parameters.set_of_keptValue hvalue] at hset
        obtain ⟨rfl, -⟩ := Prod.mk.inj (Except.ok.inj hset)
        exact congrArg Except.ok hhost
  obtain ⟨hvalue, -⟩ := Parameters.keptValue_eq_some_iff.mp hkept
  have hne := (nonBlank?_eq_some_iff.mp hvalue).2
  obtain ⟨arguments, hintended, hbuild⟩ := r.exists_build (trimmed_of_nonBlank? hvalue) hne hr
  let pairs := ("verb", r.verb) :: arguments
  have hsign : '#' ∉ '?' :: Form.encodePairs pairs := by
    simp [Form.numberSign_not_mem_encodePairs]
  refine ⟨_, hbuild, ?_, ?_, ?_⟩
  · intro hmark
    rw [asked, String.toList_ofList, queryOf_append hmark,
      takeWhile_of_numberSign_not_mem (Form.numberSign_not_mem_encodePairs _),
      Form.decodePairs_encodePairs, hintended]
    rfl
  · intro front own hown hfront
    have hasked : asked host = Form.decodePairs (own.takeWhile (· ≠ '#')) := by
      rw [asked, hown, queryOf_append hfront]
    rw [asked, String.toList_ofList, hown, List.append_assoc, List.cons_append,
      queryOf_append hfront, hasked, hintended, List.tail_cons]
    constructor
    · intro hcut
      rw [takeWhile_of_numberSign_mem hcut]
    · intro hwhole
      have hquery : '#' ∉ own ++ '?' :: Form.encodePairs pairs := by
        simpa [hwhole] using hsign
      obtain ⟨lead, last, rfl, hlast, hlead⟩ := Form.exists_last own
      refine ⟨Form.decodePairs lead,
        Form.decodePart (last ++ '?' :: Form.encodePair ("verb", r.verb)), ?_, ?_, ?_⟩
      · rw [takeWhile_of_numberSign_not_mem hwhole, hlead]
        exact List.prefix_append _ _
      · obtain ⟨hverb, hrun⟩ := r.questionMark_not_mem_verb
        exact Form.decodePart_run_ne last hverb hrun
      · rw [takeWhile_of_numberSign_not_mem hquery, List.append_assoc, hlead,
          Form.decodePairs_run hlast]
  · intro hcut
    rw [String.toList_ofList, takeWhile_of_numberSign_mem hcut]

/-- An address with a query that is set, and the verb that runs into its last argument. -/
theorem asked_of_set_ownQuery :
    let host := "http://[::1]/oai?x=1"
    Parameters.set {} .hostUrl (host ++ "\n") = .ok ({ hostUrl := some host }, true) ∧
      Request.identify.IsNamed ∧
      ∃ url, Request.identify.build host = .ok url ∧
        ∃ brought run, brought <+: asked host ∧ run ≠ (some "verb", some "Identify") ∧
          asked url = brought ++ [run] := by
  intro host
  have hset : Parameters.set {} .hostUrl (host ++ "\n") =
      .ok ({ hostUrl := some host }, true) := by decide +kernel
  obtain ⟨url, hbuild, -, hown, -⟩ := asked_of_set (r := .identify) hset rfl trivial
  have hparts : host.toList = "http://[::1]/oai".toList ++ '?' :: "x=1".toList := by decide
  exact ⟨hset, trivial, url, hbuild, (hown _ _ hparts (by decide)).2 (by decide)⟩

/-- Not every request at an address that was set asks for its verb. -/
theorem not_asked_of_set :
    ¬∀ (p q : Parameters) (value host : String) (changed : Bool),
      p.set .hostUrl value = .ok (q, changed) → q.hostUrl = some host →
        ∀ (r : Request) (url : String), r.build host = .ok url →
          ∀ pair ∈ r.intended, Form.readPair pair ∈ asked url := by
  intro h
  have hset : Parameters.set {} .hostUrl "http://[::1]/oai?x=1" =
      .ok ({ hostUrl := some "http://[::1]/oai?x=1" }, true) := by decide +kernel
  have hbuild : Request.identify.build "http://[::1]/oai?x=1" =
      .ok "http://[::1]/oai?x=1?verb=Identify" := by decide +kernel
  have hasked : asked "http://[::1]/oai?x=1?verb=Identify" =
      [(some "x", some "1?verb=Identify")] := by decide +kernel
  have hverb := h _ _ _ _ _ hset rfl .identify _ hbuild ("verb", "Identify") List.mem_cons_self
  rw [hasked] at hverb
  exact absurd hverb (by decide)

end Protocol

end MetadataHarvest
