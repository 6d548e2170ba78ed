import MetadataHarvest.Proofs.RecordReader.Reading
import MetadataHarvest.Proofs.RecordReader.Route

/-!
# Limits to the number of pages

A limit that is not reached makes no difference: an answer that is given within a limit is
given within any higher one, after the same requests. What a reader answers without a limit is
therefore what it answers with one that is high enough, if there is such a limit at all.

There is one whenever the pages come to a stop. Where they never do, the list cannot be read
to its end, and a call for a record comes back if a page on the way holds one.
-/

namespace MetadataHarvest

open Markup Protocol

/-- What goes on up to a limit gives the same for all limits high enough, and does not reach
them. -/
def Settles {α : Type} (run : Nat → α) (reached : α → Prop) : Prop :=
  ∃ limit result, ¬reached result ∧ ∀ higher, limit ≤ higher → run higher = result

/-- One limit that is not reached is enough, when it makes no difference. -/
theorem settles_iff {α : Type} {run : Nat → α} {reached : α → Prop}
    (hrun : ∀ limit higher, limit ≤ higher → ¬reached (run limit) → run higher = run limit) :
    Settles run reached ↔ ∃ limit, ¬reached (run limit) := by
  constructor
  · rintro ⟨limit, result, hresult, hlimit⟩
    refine ⟨limit, ?_⟩
    rw [hlimit limit (Nat.le_refl limit)]
    exact hresult
  · rintro ⟨limit, hlimit⟩
    refine ⟨limit, _, hlimit, ?_⟩
    intro higher hle
    exact hrun limit higher hle hlimit

namespace RecordReader

open Repository

variable {r : Repository}

/-- A call for a record answers the same with a higher limit. -/
theorem run_nextRecord_of_le (limit : Nat) (reader : RecordReader) :
    ∀ {higher : Nat} {before : List String}, limit ≤ higher →
      ((nextRecord r limit reader).run before).1.1 ≠ .error .outOfPages →
      (nextRecord r higher reader).run before = (nextRecord r limit reader).run before := by
  induction limit, reader using nextRecord_induction with
  | buffered limit reader record rest hbuffer =>
      intro higher before _ _
      rw [run_nextRecord_cons hbuffer, run_nextRecord_cons hbuffer]
  | stopped reader hbuffer =>
      intro higher before _ h
      rw [run_nextRecord_zero hbuffer] at h
      exact absurd rfl h
  | ended limit reader hbuffer hurl =>
      intro higher before hle _
      obtain ⟨higher, rfl⟩ := Nat.exists_eq_add_one.mpr (Nat.zero_lt_of_lt hle)
      rw [run_nextRecord_none hbuffer hurl, run_nextRecord_none hbuffer hurl]
  | requested limit reader url hbuffer hurl ih =>
      intro higher before hle h
      obtain ⟨higher, rfl⟩ := Nat.exists_eq_add_one.mpr (Nat.zero_lt_of_lt hle)
      rw [run_nextRecord_some hbuffer hurl] at h ⊢
      rw [run_nextRecord_some hbuffer hurl]
      cases hpage : r.page before url with
      | error e => rfl
      | ok page? =>
          rw [hpage] at h
          cases page? with
          | none => rfl
          | some page => exact ih _ (Nat.le_of_succ_le_succ hle) h

/-- One step of reading on to the end, and then the rest. -/
theorem run_drain_succ (r : Repository) (limit : Nat) (reader : RecordReader)
    (before : List String) :
    (drain r (limit + 1) reader).run before =
      match (nextRecord r (limit + 1) reader).run before with
      | ((.ok none, next), after) => (([], next), after)
      | ((.ok (some record), next), after) =>
        let rest := (drain r limit next).run after
        ((.ok record :: rest.1.1, rest.1.2), rest.2)
      | ((.error .outOfPages, next), after) => (([.error .outOfPages], next), after)
      | ((.error (.failed e), next), after) =>
        let rest := (drain r limit next).run after
        ((.error (.failed e) :: rest.1.1, rest.1.2), rest.2) := by
  rw [drain, Session.run_bind]
  obtain ⟨⟨outcome, next⟩, after⟩ := (nextRecord r (limit + 1) reader).run before
  cases outcome with
  | error e =>
      cases e with
      | failed e => rfl
      | outOfPages => rfl
  | ok record? =>
      cases record? with
      | none => rfl
      | some record => rfl

/-- Reading on to the end gives the same with a higher limit. -/
theorem run_drain_of_le {limit : Nat} :
    ∀ {higher : Nat}, limit ≤ higher → ∀ {reader : RecordReader} {before : List String},
      .error .outOfPages ∉ ((drain r limit reader).run before).1.1 →
      (drain r higher reader).run before = (drain r limit reader).run before := by
  induction limit with
  | zero =>
      intro higher _ reader before h
      exact absurd (List.mem_singleton.mpr rfl) h
  | succ limit ih =>
      intro higher hle reader before h
      obtain ⟨higher, rfl⟩ := Nat.exists_eq_add_one.mpr (Nat.zero_lt_of_lt hle)
      have hle' : limit ≤ higher := Nat.le_of_succ_le_succ hle
      have hnext := @run_nextRecord_of_le r (limit + 1) reader _ before hle
      rw [run_drain_succ] at h ⊢
      rw [run_drain_succ]
      generalize (nextRecord r (limit + 1) reader).run before = result at hnext h
      obtain ⟨⟨outcome, next⟩, after⟩ := result
      cases outcome with
      | error e =>
          cases e with
          | failed e =>
              rw [hnext (by simp)]
              dsimp only at h ⊢
              rw [ih hle' fun hmem => h (List.mem_cons_of_mem _ hmem)]
          | outOfPages => exact absurd (List.mem_singleton.mpr rfl) h
      | ok record? =>
          rw [hnext (by simp)]
          cases record? with
          | none => rfl
          | some record =>
              dsimp only at h ⊢
              rw [ih hle' fun hmem => h (List.mem_cons_of_mem _ hmem)]

/-- A call for a record comes back, with the same answer for all limits high enough. -/
def Returns (r : Repository) (reader : RecordReader) (before : List String) : Prop :=
  Settles (fun limit => (nextRecord r limit reader).run before) (·.1.1 = .error .outOfPages)

/-- Reading on comes to the end of the list, in the same way for all limits high enough. -/
def Ends (r : Repository) (reader : RecordReader) (before : List String) : Prop :=
  Settles (fun limit => (drain r limit reader).run before) (.error .outOfPages ∈ ·.1.1)

theorem returns_iff {reader : RecordReader} {before : List String} :
    Returns r reader before ↔
      ∃ limit, ((nextRecord r limit reader).run before).1.1 ≠ .error .outOfPages := by
  apply settles_iff
  intro limit higher hle hlimit
  exact run_nextRecord_of_le limit reader hle hlimit

theorem ends_iff {reader : RecordReader} {before : List String} :
    Ends r reader before ↔
      ∃ limit, .error .outOfPages ∉ ((drain r limit reader).run before).1.1 := by
  apply settles_iff
  intro limit higher hle hlimit
  exact run_drain_of_le hle hlimit

section Endless

variable (stable : r.Stable)

include stable in
/-- Where the pages never come to a stop, a call for a record hands one out or reaches its
limit, and they never come to a stop after it. -/
theorem nextRecord_of_endless (limit : Nat) (reader : RecordReader) :
    ∀ (before : List String), r.Endless reader.host reader.nextUrl →
      let result := (nextRecord r limit reader).run before
      r.Endless result.1.2.host result.1.2.nextUrl ∧
        (result.1.1 = .error .outOfPages ∨ ∃ record, result.1.1 = .ok (some record)) := by
  induction limit, reader using nextRecord_induction with
  | buffered limit reader record rest hbuffer =>
      intro before endless
      rw [run_nextRecord_cons hbuffer]
      exact ⟨endless, .inr ⟨record, rfl⟩⟩
  | stopped reader hbuffer =>
      intro before endless
      rw [run_nextRecord_zero hbuffer]
      exact ⟨endless, .inl rfl⟩
  | ended limit reader hbuffer hurl =>
      intro before endless
      obtain ⟨url, page, hsome, -, -⟩ := endless.next
      rw [hurl] at hsome
      cases hsome
  | requested limit reader url hbuffer hurl ih =>
      intro before endless
      obtain ⟨url, page, hurl, hpage, hafter⟩ := endless.next
      rw [stable.run_nextRecord hbuffer hurl, hpage]
      apply ih
      exact hafter

include stable in
/-- Where the pages never come to a stop, no limit is enough to read to the end. -/
theorem outOfPages_mem_drain {limit : Nat} :
    ∀ {reader : RecordReader} {before : List String},
      r.Endless reader.host reader.nextUrl →
      .error .outOfPages ∈ ((drain r limit reader).run before).1.1 := by
  induction limit with
  | zero =>
      intro reader before _
      exact List.mem_singleton.mpr rfl
  | succ limit ih =>
      intro reader before endless
      obtain ⟨hafter, hanswer⟩ := nextRecord_of_endless stable (limit + 1) reader before endless
      rw [run_drain_succ]
      generalize (nextRecord r (limit + 1) reader).run before = result at hafter hanswer
      obtain ⟨⟨outcome, next⟩, after⟩ := result
      rcases hanswer with rfl | ⟨record, rfl⟩
      · exact List.mem_singleton.mpr rfl
      · exact List.mem_cons_of_mem _ (ih hafter)

include stable in
/-- Where the pages never come to a stop and none of them holds a record, no limit is enough
for a call for a record. -/
theorem nextRecord_of_barren {limit : Nat} :
    ∀ {reader : RecordReader} {before : List String}, reader.buffer = [] →
      r.Endless reader.host reader.nextUrl → r.Barren reader.host reader.nextUrl →
      ((nextRecord r limit reader).run before).1.1 = .error .outOfPages := by
  induction limit with
  | zero =>
      intro reader before hbuffer _ _
      rw [run_nextRecord_zero hbuffer]
  | succ limit ih =>
      intro reader before hbuffer endless barren
      obtain ⟨url, page, hurl, hpage, hafter⟩ := endless.next
      have hrecords : ∀ n, r.recordsAt [] url ++
          (r.route reader.host n (r.following reader.host [] url)).flatMap (r.recordsAt []) =
            [] := by
        intro n
        have hn := barren (n + 1)
        rwa [hurl, route_succ_some, List.flatMap_cons] at hn
      have hpage' := (List.append_eq_nil_iff.mp (hrecords 0)).1
      rw [recordsAt_of_page? (page?_of_ok hpage)] at hpage'
      rw [stable.run_nextRecord hbuffer hurl, hpage]
      apply ih hpage' hafter
      intro n
      exact (List.append_eq_nil_iff.mp (hrecords n)).2

include stable in
/-- A record on a page on the way is reached by a call for a record. -/
theorem nextRecord_of_record {n : Nat} :
    ∀ {reader : RecordReader} {before : List String}, reader.buffer = [] →
      (r.route reader.host n reader.nextUrl).flatMap (r.recordsAt []) ≠ [] →
      ((nextRecord r n reader).run before).1.1 ≠ .error .outOfPages := by
  induction n with
  | zero =>
      intro reader before _ h
      exact absurd rfl h
  | succ n ih =>
      intro reader before hbuffer h
      cases hurl : reader.nextUrl with
      | none =>
          rw [hurl, route_none] at h
          exact absurd rfl h
      | some url =>
          rw [hurl, route_succ_some, List.flatMap_cons] at h
          cases hpage? : r.page? [] url with
          | none =>
              rw [recordsAt_of_page?_eq_none hpage?, following_of_page?_eq_none hpage?,
                route_none] at h
              exact absurd rfl h
          | some page =>
              rw [recordsAt_of_page? hpage?] at h
              rw [stable.run_nextRecord hbuffer hurl, page_of_page? hpage?]
              dsimp only
              cases hrecords : page.records with
              | cons record rest =>
                  rw [run_nextRecord_cons rfl]
                  simp
              | nil =>
                  rw [hrecords] at h
                  apply ih rfl
                  exact h

include stable in
/-- Where the pages come to a stop, a call for a record comes back. -/
theorem returns_of_trail {reader : RecordReader} {urls : List String}
    (trail : r.Trail reader.host reader.nextUrl urls) (before : List String) :
    Returns r reader before := by
  obtain ⟨outcome, q, hrun, -⟩ := nextRecord_leads stable (p := ⟨reader, before, urls⟩) trail
    (Nat.lt_succ_self _)
  refine returns_iff.mpr ⟨urls.length + 1, ?_⟩
  dsimp only at hrun
  rw [hrun]
  cases outcome with
  | error e => simp
  | ok record? => simp

include stable in
/-- A call for a record comes back unless nothing is in the buffer, the pages never come to a
stop, and none of them holds a record. -/
theorem returns_iff_not_barren {reader : RecordReader} {before : List String} :
    Returns r reader before ↔
      ¬(reader.buffer = [] ∧ r.Endless reader.host reader.nextUrl ∧
        r.Barren reader.host reader.nextUrl) := by
  constructor
  · rintro hreturns ⟨hbuffer, endless, barren⟩
    obtain ⟨limit, hlimit⟩ := returns_iff.mp hreturns
    exact hlimit (nextRecord_of_barren stable hbuffer endless barren)
  · intro h
    rcases r.trail_or_endless reader.host reader.nextUrl with ⟨urls, trail⟩ | endless
    · exact returns_of_trail stable trail before
    · rw [returns_iff]
      cases hbuffer : reader.buffer with
      | cons record rest =>
          refine ⟨0, ?_⟩
          rw [run_nextRecord_cons hbuffer]
          simp
      | nil =>
          obtain ⟨n, hn⟩ := not_forall.mp fun barren => h ⟨hbuffer, endless, barren⟩
          exact ⟨n, nextRecord_of_record stable hbuffer hn⟩

include stable in
/-- Reading on comes to an end where the pages come to a stop, and nowhere else. -/
theorem ends_iff_not_endless {reader : RecordReader} {before : List String} :
    Ends r reader before ↔ ¬r.Endless reader.host reader.nextUrl := by
  constructor
  · intro hends endless
    obtain ⟨limit, hlimit⟩ := ends_iff.mp hends
    exact hlimit (outOfPages_mem_drain stable endless)
  · intro h
    rcases r.trail_or_endless reader.host reader.nextUrl with ⟨urls, trail⟩ | endless
    · obtain ⟨limit, hlimit⟩ :
          ∃ limit, (Place.remaining r ⟨reader, before, urls⟩).length + urls.length < limit :=
        ⟨_, Nat.lt_succ_self _⟩
      obtain ⟨next, hrun⟩ := run_drain stable limit ⟨reader, before, urls⟩ trail hlimit
      refine ends_iff.mpr ⟨limit, ?_⟩
      dsimp only at hrun
      rw [hrun]
      simp
    · exact absurd endless h

end Endless

end RecordReader

end MetadataHarvest
