import MetadataHarvest.Proofs.Markup.Pieces
import MetadataHarvest.Proofs.Protocol.Request
import MetadataHarvest.Proofs.RecordReader.Page

/-!
# The token that is sent back

A reader takes the token of a page as it takes all text: word by word. So the token that it
sends back is the one that the page carries only when that has no other blanks than single
spaces, and no word of it is split into pieces of character data. Whatever the token, it leads
on, and nothing but the token is changed in the request.
-/

namespace MetadataHarvest

open Markup Protocol Text

/-- A token as it is received: the words of its pieces, joined by single spaces. -/
def Markup.Pieces.received (p : Pieces) : String := String.ofList (joinWords p.words)

/-- An element that holds a text in pieces. -/
def Markup.Pieces.element (p : Pieces) (name : String) (attributes : List (String × String)) :
    Element :=
  ⟨name, attributes, .ofNodes p.nodes⟩

namespace Protocol

/-- A response with a list of records in which this is the only token. -/
def CarriesToken (body : String) (token : Element) : Prop :=
  ∃ root list, Element.parse body = .ok root ∧ root.childLocal? "error" = none ∧
    root.childLocal? "ListRecords" = some list ∧
    list.children.filter (·.localName = "resumptionToken") = [token]

/-- Of a page with one token the text of the token is taken, when it has one. -/
theorem CarriesToken.read {body : String} {token : Element} (h : CarriesToken body token)
    (hshown : token.text ≠ "") :
    ∃ page, RecordPage.read body = .ok (some page) ∧ page.token = some token.text := by
  obtain ⟨root, list, hparse, herror, hlist, htoken⟩ := h
  refine ⟨RecordPage.ofList list, ?_, ?_⟩
  · rw [RecordPage.read, hparse]
    simp only [RecordPage.ofResponse, herror, hlist]
  · simp only [RecordPage.ofList, htoken]
    simp [lastSome?, hshown]

/-- The address of a further page asks for one token only. -/
theorem asksFor_resumption_iff {host query token : String}
    (h : host ++ "?" ++ query = (Request.resumption token).url host) (token' : String) :
    AsksFor query [("verb", "ListRecords"), ("resumptionToken", token')] ↔ token' = token := by
  have hasks := Request.query_asksFor (.resumption token)
  rw [Request.url_eq, String.append_right_inj] at h
  rw [← h] at hasks
  constructor
  · intro htoken'
    have hpairs := htoken'.unique hasks
    simpa [Request.arguments, Request.verb] using hpairs
  · rintro rfl
    exact hasks

end Protocol

namespace Markup.Pieces

theorem text_element (p : Pieces) (name : String) (attributes : List (String × String)) :
    (p.element name attributes).text = p.received := by
  rw [Element.text, element, words_nodes, received]

theorem received_ne_empty {p : Pieces} (h : trimmed p.whole ≠ "") : p.received ≠ "" := by
  intro hempty
  have hjoin : joinWords p.words = [] := by
    simpa [received] using congrArg String.toList hempty
  exact h (p.trimmed_whole_of_words ((joinWords_eq_nil_iff p.isWord_of_mem_words).mp hjoin))

/-- A token is received as it was only when its pieces have its words and its words are joined
by single spaces in it. -/
theorem received_eq_whole_iff (p : Pieces) :
    p.received = p.whole ↔ p.words = Text.words p.whole.toList ∧
      joinWords (Text.words p.whole.toList) = p.whole.toList := by
  rw [← joinWords_eq_iff p.isWord_of_mem_words]
  constructor
  · intro h
    rw [← h, received, String.toList_ofList]
  · intro h
    rw [received, h, String.ofList_toList]

end Markup.Pieces

namespace RecordReader

variable {r : Repository} {reader : RecordReader} {before : List String} {url body : String}

/-- After a page with a token the reader has the address that asks for this token. -/
theorem nextUrl_of_carriesToken {token : Element} (hurl : reader.nextUrl = some url)
    (hanswer : r.answer before url = .ok body) (htoken : CarriesToken body token)
    (hshown : token.text ≠ "") :
    ((reader.fetchPage r).run before).1.2.nextUrl =
      some ((Request.resumption token.text).url reader.host) := by
  obtain ⟨page, hread, hpage⟩ := htoken.read hshown
  have hthere : r.page? before url = some page :=
    Repository.page?_of_ok ((Repository.page_of_answer hanswer).trans hread)
  rw [run_fetchPage_some hurl, nextUrl_turnAt, Repository.following, hthere, Option.bind_some,
    hpage, Option.map_some]

/-- A token in pieces, and what is asked for after a page that carries it. The element with the
pieces is read with their nodes, wherever it stands. After a page with this element as its only
token the next address that is requested asks for the words of the pieces, joined by single
spaces, and this is the token exactly when its pieces have its words and it has no other blanks
than those spaces. -/
theorem token_askedFor {name : String} {attributes : List (String × String)}
    (hname : isName name = true) (hattributes : areAttributes attributes = true)
    (pieces : Pieces) (hshown : trimmed pieces.whole ≠ "") :
    (∀ (p : Progress) (rest : List Char),
      p.read? (openingTag name attributes ++ (pieces.written ++ (closingTag name ++ rest))) =
        (p.attach (.element (pieces.element name attributes))).read? rest) ∧
    ∀ (r : Repository) (reader : RecordReader) (before : List String) (url body : String),
      reader.nextUrl = some url → r.answer before url = .ok body →
      CarriesToken body (pieces.element name attributes) →
      let turned := ((reader.fetchPage r).run before).1.2
      ∃ query, turned.nextUrl = some (reader.host ++ "?" ++ query) ∧
        ((turned.fetchPage r).run (before ++ [url])).2 =
          before ++ [url, reader.host ++ "?" ++ query] ∧
        AsksFor query [("verb", "ListRecords"), ("resumptionToken", pieces.received)] ∧
        (AsksFor query [("verb", "ListRecords"), ("resumptionToken", pieces.whole)] ↔
          pieces.words = words pieces.whole.toList ∧
            joinWords (words pieces.whole.toList) = pieces.whole.toList) := by
  constructor
  · intro p rest
    exact (Progress.attaches_pieces pieces).read?_tagged hname hattributes rest p
  · intro r reader before url body hurl hanswer htoken turned
    have htext := pieces.text_element name attributes
    have hnext := nextUrl_of_carriesToken hurl hanswer htoken
      (htext.symm ▸ pieces.received_ne_empty hshown)
    rw [htext, Request.url_eq] at hnext
    have hquery := (Request.url_eq reader.host (.resumption pieces.received)).symm
    refine ⟨_, hnext, ?_, (asksFor_resumption_iff hquery _).mpr rfl, ?_⟩
    · rw [run_fetchPage_some hnext, List.append_assoc]
      rfl
    · rw [asksFor_resumption_iff hquery, eq_comm]
      exact pieces.received_eq_whole_iff

section Page

/-- A text between two tags without attributes. -/
def tagged (name : String) (inner : List Char) : List Char :=
  openingTag name [] ++ (inner ++ closingTag name)

/-- A page with nothing but a token in pieces. -/
def tokenPage (pieces : Pieces) : String :=
  String.ofList (tagged "o" (tagged "ListRecords" (tagged "resumptionToken" pieces.written)))

theorem attaches_tagged {name : String} (hname : isName name = true) {inner : List Char}
    {ns : List Node} (h : Progress.Attaches inner ns) :
    Progress.Attaches (tagged name inner) [.element ⟨name, [], .ofNodes ns⟩] := by
  intro p rest _
  have hattributes : areAttributes [] = true := by decide
  have hread := h.read?_tagged hname hattributes rest p
  rw [tagged, List.append_assoc, List.append_assoc, hread, List.foldl_cons, List.foldl_nil]

/-- There is a page for every token in every way of splitting it. -/
theorem carriesToken_tokenPage (pieces : Pieces) :
    CarriesToken (tokenPage pieces) (pieces.element "resumptionToken" []) := by
  let token := pieces.element "resumptionToken" []
  let list : Element := ⟨"ListRecords", [], .ofNodes [.element token]⟩
  have hparse : Element.parse (tokenPage pieces) = .ok ⟨"o", [], .ofNodes [.element list]⟩ := by
    have hpieces := Progress.attaches_pieces pieces
    have htoken := attaches_tagged (by decide : isName "resumptionToken" = true) hpieces
    have hlist := attaches_tagged (by decide : isName "ListRecords" = true) htoken
    have hroot := attaches_tagged (by decide : isName "o" = true) hlist .start [] atTag_nil
    rw [List.append_nil] at hroot
    rw [tokenPage, Element.parse_ofList (by simp [tagged, openingTag]), hroot, Progress.read?_nil]
    rfl
  have hlist : localPart "ListRecords" = "ListRecords" := by decide
  have htoken : localPart "resumptionToken" = "resumptionToken" := by decide
  have hchildren (e : Element) (name : String) :
      Element.children ⟨name, [], .ofNodes [.element e]⟩ = [e] := rfl
  refine ⟨_, list, hparse, ?_, ?_, ?_⟩
  · simp [Element.childLocal?, hchildren, Element.localName, list, hlist]
  · simp [Element.childLocal?, hchildren, Element.localName, list, hlist]
  · simp [list, hchildren, Element.localName, token, Pieces.element, htoken]

end Page

/-- A repository whose answer to every request is one page. -/
def always (body : String) : Repository where
  answer _ _ := .ok body

/-- A reader with a page before it. -/
def waiting : RecordReader := ⟨"a:", some "a:", [], 0, 0, none⟩

/-- A token whose last letter is in a CDATA section. -/
def splitToken : Pieces := ⟨"a", [⟨"b", ""⟩], by decide⟩

/-- The token `ab` with its last letter in a CDATA section is asked for as `a b`. -/
theorem token_askedFor_splitToken :
    let turned := ((waiting.fetchPage (always (tokenPage splitToken))).run []).1.2
    splitToken.whole = "ab" ∧ trimmed splitToken.whole ≠ "" ∧
      CarriesToken (tokenPage splitToken) (splitToken.element "resumptionToken" []) ∧
      ∃ query, turned.nextUrl = some ("a:?" ++ query) ∧
        ((turned.fetchPage (always (tokenPage splitToken))).run ["a:"]).2 =
          ["a:", "a:?" ++ query] ∧
        AsksFor query [("verb", "ListRecords"), ("resumptionToken", "a b")] ∧
        ¬AsksFor query [("verb", "ListRecords"), ("resumptionToken", "ab")] := by
  intro turned
  have hwhole : splitToken.whole = "ab" := by decide
  have hshown : trimmed splitToken.whole ≠ "" := by
    rw [hwhole]
    decide +kernel
  have hcarries := carriesToken_tokenPage splitToken
  obtain ⟨query, hurl, hrequests, hasks, hiff⟩ :=
    (token_askedFor (by decide) (by decide) splitToken hshown).2 (always (tokenPage splitToken))
      waiting [] "a:" _ rfl rfl hcarries
  refine ⟨hwhole, hshown, hcarries, query, hurl, hrequests, hasks, ?_⟩
  rw [← hwhole, hiff]
  decide

/-- A token with two spaces in it. -/
def wideToken : Pieces := ⟨"a  b", [], by simp⟩

/-- A token with two spaces in it is not asked for. -/
theorem not_token_askedFor :
    ¬∀ (pieces : Pieces), pieces.whole ≠ "" → trimmed pieces.whole = pieces.whole →
      ∀ (r : Repository) (reader : RecordReader) (before : List String) (url body : String),
        reader.nextUrl = some url → r.answer before url = .ok body →
        CarriesToken body (pieces.element "resumptionToken" []) →
        ∃ query, ((reader.fetchPage r).run before).1.2.nextUrl =
            some (reader.host ++ "?" ++ query) ∧
          AsksFor query [("verb", "ListRecords"), ("resumptionToken", pieces.whole)] := by
  intro h
  have htrimmed : trimmed wideToken.whole = wideToken.whole := by decide +kernel
  have hcarries := carriesToken_tokenPage wideToken
  let r := always (tokenPage wideToken)
  have hnext : ((waiting.fetchPage r).run []).1.2.nextUrl = some _ :=
    nextUrl_of_carriesToken rfl rfl hcarries (by decide)
  obtain ⟨query, hurl, hasks⟩ :=
    h wideToken (by decide) htrimmed r waiting [] "a:" _ rfl rfl hcarries
  have hquery := Option.some.inj (hurl.symm.trans hnext)
  exact absurd ((asksFor_resumption_iff hquery _).mp hasks) (by decide)

end RecordReader

end MetadataHarvest
