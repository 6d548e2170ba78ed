import MetadataHarvest.Harvester
import MetadataHarvest.Proofs.Repository.Requests

/-!
# Handing over documents

A sink takes documents one after another and either takes them all or refuses one, with
those before it taken and none after it handed over. The documents of a page are those of
its records, in order, without the records that were skipped, and the counts of a harvest
are those of the pages taken together.
-/

namespace MetadataHarvest

namespace Sink

/-- The sink takes these documents one after another, after those that it has accepted. -/
def Accepts (sink : Sink) (accepted : List Document) : List Document → Prop
  | [] => True
  | document :: documents =>
    sink accepted document = .ok () ∧ sink.Accepts (accepted ++ [document]) documents

/-- The sink takes `first` of the documents and refuses the one after them. -/
def Refuses (sink : Sink) (accepted documents first : List Document) (e : HarvestError) :
    Prop :=
  ∃ document rest, documents = first ++ document :: rest ∧ sink.Accepts accepted first ∧
    sink (accepted ++ first) document = .error e

variable {sink : Sink} {accepted documents more first : List Document} {e : HarvestError}

theorem accepts_append :
    sink.Accepts accepted (documents ++ more) ↔
      sink.Accepts accepted documents ∧ sink.Accepts (accepted ++ documents) more := by
  induction documents generalizing accepted with
  | nil => simp [Accepts]
  | cons document documents ih =>
      rw [List.cons_append, Accepts, Accepts, ih, List.append_assoc, List.singleton_append,
        and_assoc]

/-- A sink that never fails takes any documents. -/
theorem accepts_of_ok (h : ∀ accepted document, sink accepted document = .ok ())
    (accepted documents : List Document) : sink.Accepts accepted documents := by
  induction documents generalizing accepted with
  | nil => trivial
  | cons document documents ih => exact ⟨h accepted document, ih _⟩

/-- Of any documents a sink takes all, or it refuses one. -/
theorem accepts_or_refuses (sink : Sink) (accepted documents : List Document) :
    sink.Accepts accepted documents ∨
      ∃ first e, sink.Refuses accepted documents first e := by
  induction documents generalizing accepted with
  | nil => exact .inl trivial
  | cons document documents ih =>
      cases htaken : sink accepted document with
      | error e =>
          refine .inr ⟨[], e, document, documents, rfl, trivial, ?_⟩
          rw [List.append_nil, htaken]
      | ok _ =>
          rcases ih (accepted ++ [document]) with
            haccepts | ⟨first, e, last, rest, rfl, hfirst, hlast⟩
          · exact .inl ⟨htaken, haccepts⟩
          · refine .inr ⟨document :: first, e, last, rest, rfl, ⟨htaken, hfirst⟩, ?_⟩
            rw [← List.append_cons] at hlast
            exact hlast

/-- What is refused of two parts is refused of the first, or of the second when all of the
first was taken. -/
theorem Refuses.append (h : sink.Refuses accepted (documents ++ more) first e) :
    (sink.Refuses accepted documents first e ∧ first.length < documents.length) ∨
      ∃ second, first = documents ++ second ∧ sink.Accepts accepted documents ∧
        sink.Refuses (accepted ++ documents) more second e := by
  obtain ⟨document, rest, hsplit, hfirst, hrefused⟩ := h
  rcases List.append_eq_append_iff.mp hsplit with ⟨second, rfl, hmore⟩ | ⟨others, rfl, hothers⟩
  · obtain ⟨hdocuments, hsecond⟩ := accepts_append.mp hfirst
    rw [← List.append_assoc] at hrefused
    exact .inr ⟨second, rfl, hdocuments, document, rest, hmore, hsecond, hrefused⟩
  · cases others with
    | nil =>
        rw [List.append_nil] at *
        refine .inr ⟨[], (List.append_nil first).symm, hfirst, document, rest, hothers.symm,
          trivial, ?_⟩
        rw [List.append_nil]
        exact hrefused
    | cons other others =>
        obtain ⟨rfl, -⟩ := List.cons.inj hothers
        refine .inl ⟨⟨_, others, rfl, hfirst, hrefused⟩, ?_⟩
        rw [List.length_append, List.length_cons]
        omega

/-- A page whose documents are all taken is delivered. -/
theorem deliver_of_accepts {page : List (Option Document)} :
    ∀ {accepted}, sink.Accepts accepted (page.filterMap id) →
      sink.deliver accepted page = (.ok (), accepted ++ page.filterMap id) := by
  induction page with
  | nil =>
      intro accepted _
      rw [List.filterMap_nil, List.append_nil, deliver]
  | cons document? page ih =>
      intro accepted h
      cases document? with
      | none => exact ih h
      | some document =>
          obtain ⟨htaken, hrest⟩ := h
          simp only [deliver, htaken]
          rw [ih hrest, ← List.append_cons]
          rfl

/-- The delivery of a page ends at the first document that is refused. -/
theorem deliver_of_refuses {page : List (Option Document)} :
    ∀ {accepted first}, sink.Refuses accepted (page.filterMap id) first e →
      sink.deliver accepted page = (.error e, accepted ++ first) := by
  induction page with
  | nil =>
      rintro accepted first ⟨document, rest, hsplit, -, -⟩
      simp at hsplit
  | cons document? page ih =>
      intro accepted first h
      cases document? with
      | none => exact ih h
      | some document =>
          obtain ⟨last, rest, hsplit, hfirst, hrefused⟩ := h
          cases first with
          | nil =>
              obtain ⟨rfl, -⟩ := List.cons.inj hsplit
              rw [List.append_nil] at hrefused ⊢
              simp only [deliver, hrefused]
          | cons taken first =>
              obtain ⟨rfl, hpage⟩ := List.cons.inj hsplit
              obtain ⟨htaken, hfirst⟩ := hfirst
              rw [List.append_cons] at hrefused ⊢
              simp only [deliver, htaken]
              exact ih ⟨last, rest, hpage, hfirst, hrefused⟩

/-- A failure to deliver a page is one of the sink. -/
theorem deliver_ne_error (h : ∀ accepted document, sink accepted document ≠ .error e)
    (accepted : List Document) (page : List (Option Document)) :
    (sink.deliver accepted page).1 ≠ .error e := by
  rcases sink.accepts_or_refuses accepted (page.filterMap id) with
    haccepts | ⟨first, e', hrefuses⟩
  · rw [deliver_of_accepts haccepts]
    simp
  · rw [deliver_of_refuses hrefuses]
    obtain ⟨document, -, -, -, hrefused⟩ := hrefuses
    intro he
    obtain rfl : e' = e := Except.error.inj he
    exact h _ _ hrefused

end Sink

namespace Summary

/-- The counts of two pages are those of their records together. -/
theorem addPage_append (s : Summary) (page more : List (Option Document)) :
    s.addPage (page ++ more) = (s.addPage page).addPage more := by
  simp only [addPage, List.length_append, List.countP_append, Nat.add_assoc]

/-- The counts of records alone: how many there are, how many become documents, and how many
are skipped. -/
theorem empty_addPage_map (records : List Markup.Element) (t : Transformer) :
    empty.addPage (records.map t.transform) =
      ⟨records.length, (records.filterMap t.transform).length,
        records.countP fun record => (t.transform record).isNone⟩ := by
  simp only [addPage, empty, Nat.zero_add, List.length_map, List.countP_map,
    List.length_filterMap_eq_countP]
  rfl

/-- Every record becomes a document or is skipped. -/
theorem length_eq_documents_add_skipped (records : List Markup.Element) (t : Transformer) :
    records.length = (records.filterMap t.transform).length +
      records.countP fun record => (t.transform record).isNone := by
  have hsplit := List.length_eq_countP_add_countP (fun record => (t.transform record).isSome)
    (l := records)
  simpa only [Bool.not_eq_true, Option.isSome_eq_false_iff, Bool.decide_eq_true,
    ← List.length_filterMap_eq_countP] using hsplit

end Summary

namespace Harvester

/-- One page more: it is read, and then its documents are handed over. -/
theorem run_harvestPages_succ (r : Repository) (t : Transformer) (sink : Sink) (limit : Nat)
    (reader : RecordReader) (summary : Summary) (accepted : List Document)
    (before : List String) :
    (harvestPages r t sink (limit + 1) reader summary accepted).run before =
      match (reader.readPage r).run before with
      | ((.error e, _), after) => ((.error (.failed e), accepted), after)
      | ((.ok none, _), after) => ((.ok summary, accepted), after)
      | ((.ok (some page), next), after) =>
        match sink.deliver accepted (page.map t.transform) with
        | (.error e, taken) => ((.error (.failed e), taken), after)
        | (.ok _, taken) =>
          (harvestPages r t sink limit next (summary.addPage (page.map t.transform)) taken).run
            after := by
  rw [harvestPages, Session.run_bind]
  obtain ⟨⟨outcome, next⟩, after⟩ := (reader.readPage r).run before
  cases outcome with
  | error e => rfl
  | ok page? =>
      cases page? with
      | none => rfl
      | some page =>
          cases hdeliver : sink.deliver accepted (page.map t.transform) with
          | mk delivered taken =>
              cases delivered with
              | error e =>
                  simp only [hdeliver]
                  rfl
              | ok _ => simp only [hdeliver]

/-- A harvest fails only as a page or the sink does. -/
theorem harvestPages_ne_error {r : Repository} {t : Transformer} {sink : Sink} {e : HarvestError}
    (hpage : ∀ (reader : RecordReader) before, ((reader.readPage r).run before).1.1 ≠ .error e)
    (hsink : ∀ accepted document, sink accepted document ≠ .error e) {limit : Nat} :
    ∀ (reader : RecordReader) (summary : Summary) (accepted : List Document)
      (before : List String),
      ((harvestPages r t sink limit reader summary accepted).run before).1.1 ≠
        .error (.failed e) := by
  induction limit with
  | zero =>
      intro reader summary accepted before h
      cases h
  | succ limit ih =>
      intro reader summary accepted before h
      have hread := hpage reader before
      rw [run_harvestPages_succ] at h
      generalize (reader.readPage r).run before = result at hread h
      obtain ⟨⟨outcome, next⟩, after⟩ := result
      cases outcome with
      | error e' =>
          obtain rfl : e' = e := by simpa using h
          exact hread rfl
      | ok page? =>
          cases page? with
          | none => cases h
          | some page =>
              have hdeliver := Sink.deliver_ne_error hsink accepted (page.map t.transform)
              dsimp only at h
              generalize sink.deliver accepted (page.map t.transform) = delivery at hdeliver h
              obtain ⟨delivered, taken⟩ := delivery
              cases delivered with
              | error e' =>
                  obtain rfl : e' = e := by simpa using h
                  exact hdeliver rfl
              | ok _ => exact ih next _ taken after h

end Harvester

end MetadataHarvest
