import MetadataHarvest.Proofs.Repository.Requests
import MetadataHarvest.Proofs.Text.Trim
import MetadataHarvest.Proofs.Url.Form

/-!
# What the address of a request asks for

The query in the address of a request decodes to the arguments that were intended, in their
order and with no others. So no value of an argument, whatever its characters, adds, changes or
drops one.
-/

namespace MetadataHarvest.Protocol

open Text

/-- A query that decodes to exactly these pairs of names and values, in this order, and that no
number sign cuts off. -/
def AsksFor (query : String) (pairs : List (String × String)) : Prop :=
  Url.Form.decodePairs query.toList = pairs.map (fun pair => (some pair.1, some pair.2)) ∧
    '#' ∉ query.toList

/-- A query asks for one list of pairs only. -/
theorem AsksFor.unique {query : String} {pairs pairs' : List (String × String)}
    (h : AsksFor query pairs) (h' : AsksFor query pairs') : pairs = pairs' := by
  have hinjective : Function.Injective fun pair : String × String =>
      (some pair.1, some pair.2) := by
    intro pair pair' heq
    rw [Prod.mk.injEq, Option.some.injEq, Option.some.injEq] at heq
    exact Prod.ext heq.1 heq.2
  exact List.map_injective_iff.mpr hinjective (h.1.symm.trans h'.1)

/-- An argument with its value, when there is a value that is not empty. -/
def given (name : String) : Option String → List (String × String)
  | none => []
  | some value => if value = "" then [] else [(name, value)]

/-- What the first page of a list of records is asked for with. -/
def listPairs (name : String) (since upTo : Option String) : List (String × String) :=
  ("verb", "ListRecords") ::
    (given "from" since ++ given "until" upTo ++ [("metadataPrefix", name)])

/-- What a further page is asked for with. -/
def furtherPairs (token : String) : List (String × String) :=
  [("verb", "ListRecords"), ("resumptionToken", token)]

/-- Pairs as a query. -/
def pairsQuery (pairs : List (String × String)) : String :=
  String.ofList (Url.Form.encodePairs pairs)

theorem pairsQuery_asksFor (pairs : List (String × String)) : AsksFor (pairsQuery pairs) pairs := by
  rw [AsksFor, pairsQuery, String.toList_ofList]
  exact ⟨Url.Form.decodePairs_encodePairs _, Url.Form.numberSign_not_mem_encodePairs _⟩

namespace Request

theorem bound_eq_given (name : String) (value : Option String) :
    bound name value = given name value := by
  cases value with
  | none => rfl
  | some value =>
      by_cases h : value = ""
      · simp [bound, given, h]
      · simp [bound, given, h]

/-- The query of a request. -/
def query (r : Request) : String := pairsQuery (("verb", r.verb) :: r.arguments)

theorem url_eq (host : String) (r : Request) : r.url host = host ++ "?" ++ r.query := rfl

/-- The query of a request asks for its verb and its arguments. -/
theorem query_asksFor (r : Request) : AsksFor r.query (("verb", r.verb) :: r.arguments) :=
  pairsQuery_asksFor _

theorem query_listRecords (name : String) (since upTo : Option String) :
    (listRecords name since upTo).query = pairsQuery (listPairs name since upTo) := by
  rw [query, arguments, bound_eq_given, bound_eq_given]
  rfl

theorem query_resumption (token : String) :
    (resumption token).query = pairsQuery (furtherPairs token) := rfl

/-- Requests at one address are told apart by what they ask for. -/
theorem pairs_eq_of_url_eq {host : String} {r r' : Request} (h : r.url host = r'.url host) :
    ("verb", r.verb) :: r.arguments = ("verb", r'.verb) :: r'.arguments := by
  have hquery : r.query = r'.query := by
    rw [url_eq, url_eq] at h
    exact (String.append_right_inj _).mp h
  have hasks := query_asksFor r
  rw [hquery] at hasks
  exact hasks.unique (query_asksFor r')

end Request

section Address

variable {address : String}

theorem requestUrl_of_shown (h : trimmed address ≠ "") (r : Request) :
    requestUrl address r = .ok (r.url (trimmed address)) := by
  rw [requestUrl, host, nonBlank?_of_shown h]
  rfl

/-- Nothing is asked for at a blank address. -/
theorem listRecordsUrl_of_blank (h : trimmed address = "") (name : String)
    (since upTo : Option String) :
    listRecordsUrl address name since upTo = .error .missingHostUrl := by
  rw [listRecordsUrl, host, nonBlank?_of_blank h]
  rfl

/-- A list of records is asked for at its address, with its prefix and its bounds. -/
theorem listRecordsUrl_eq {host name metadataPrefix : String}
    (hhost : nonBlank? address = some host) (hname : nonBlank? metadataPrefix = some name)
    (since upTo : Option String) :
    listRecordsUrl address metadataPrefix since upTo =
      .ok (host ++ "?" ++ pairsQuery (listPairs name since upTo)) := by
  rw [listRecordsUrl_of_nonBlank? hhost hname, Request.url_eq, Request.query_listRecords]

/-- Records are asked for under a prefix. -/
theorem listRecordsUrl_of_blank_prefix (h : trimmed address ≠ "") {name : String}
    (hname : trimmed name = "") (since upTo : Option String) :
    listRecordsUrl address name since upTo = .error (.emptyPrefix []) := by
  simp only [listRecordsUrl, host, nonBlank?_of_shown h, nonBlank?_of_blank hname]
  rfl

end Address

/-- What the addresses of a list of records ask for. At an address that is not blank, the first
page is asked for with a prefix that is not blank, and each further page with a token. The
address then has the trimmed one in front of a question mark, and the query after it decodes to
the verb and the intended arguments: bounds that are given and not empty, the trimmed prefix,
or the token as it is. So distinct tokens give distinct addresses. With a blank address or a
blank prefix there is an error instead. -/
theorem recordUrls_askFor (address : String) :
    (trimmed address = "" →
      (∀ name since upTo, listRecordsUrl address name since upTo = .error .missingHostUrl) ∧
      ∀ token, requestUrl address (.resumption token) = .error .missingHostUrl) ∧
    (trimmed address ≠ "" →
      (∀ name since upTo, trimmed name = "" →
        listRecordsUrl address name since upTo = .error (.emptyPrefix [])) ∧
      (∀ name since upTo, trimmed name ≠ "" →
        ∃ query, listRecordsUrl address name since upTo =
            .ok (trimmed address ++ "?" ++ query) ∧
          AsksFor query (("verb", "ListRecords") :: (given "from" since ++
            given "until" upTo ++ [("metadataPrefix", trimmed name)]))) ∧
      (∀ token, ∃ query, requestUrl address (.resumption token) =
          .ok (trimmed address ++ "?" ++ query) ∧
        AsksFor query [("verb", "ListRecords"), ("resumptionToken", token)]) ∧
      ∀ token token',
        requestUrl address (.resumption token) = requestUrl address (.resumption token') →
          token = token') := by
  constructor
  · intro h
    refine ⟨listRecordsUrl_of_blank h, fun token => ?_⟩
    exact Repository.requestUrl_of_blank (nonBlank?_of_blank h) _
  · intro h
    refine ⟨fun name since upTo hname => listRecordsUrl_of_blank_prefix h hname since upTo,
      ?_, ?_, ?_⟩
    · intro name since upTo hname
      exact ⟨_, listRecordsUrl_eq (nonBlank?_of_shown h) (nonBlank?_of_shown hname) since upTo,
        pairsQuery_asksFor _⟩
    · intro token
      exact ⟨_, requestUrl_of_shown h _, Request.query_asksFor (.resumption token)⟩
    · intro token token' heq
      rw [requestUrl_of_shown h, requestUrl_of_shown h] at heq
      have hpairs := Request.pairs_eq_of_url_eq (Except.ok.inj heq)
      simpa [Request.verb, Request.arguments] using hpairs

/-- A token with all the separators of a query in it. -/
theorem recordUrls_askFor_separators :
    let token := "a&b=c d+e%26#?é"
    trimmed " http://h/oai\n" ≠ "" ∧ trimmed " p " ≠ "" ∧ trimmed "\t" = "" ∧
      (∃ query, listRecordsUrl " http://h/oai\n" " p " (some "2017") (some "") =
          .ok ("http://h/oai?" ++ query) ∧
        AsksFor query [("verb", "ListRecords"), ("from", "2017"), ("metadataPrefix", "p")]) ∧
      (∃ query, requestUrl " http://h/oai\n" (.resumption token) =
          .ok ("http://h/oai?" ++ query) ∧
        AsksFor query [("verb", "ListRecords"), ("resumptionToken", token)]) ∧
      requestUrl "\t" (.resumption token) = .error .missingHostUrl := by
  intro token
  have haddress : trimmed " http://h/oai\n" = "http://h/oai" := by decide +kernel
  have hname : trimmed " p " = "p" := by decide +kernel
  have hblank : trimmed "\t" = "" := by decide +kernel
  have hshown : trimmed " http://h/oai\n" ≠ "" := by rw [haddress]; decide
  have hprefix : trimmed " p " ≠ "" := by rw [hname]; decide
  obtain ⟨-, hfirst, hnext, -⟩ := (recordUrls_askFor " http://h/oai\n").2 hshown
  have hlist := hfirst " p " (some "2017") (some "") hprefix
  rw [haddress, hname] at hlist
  have hresumption := hnext token
  rw [haddress] at hresumption
  exact ⟨hshown, hprefix, hblank, hlist, hresumption, ((recordUrls_askFor "\t").1 hblank).2 token⟩

end MetadataHarvest.Protocol
