import MetadataHarvest.Proofs.RecordReader.Trail
import MetadataHarvest.Registry
import Mathlib.Data.List.Perm.Subperm

/-!
# Routes through the pages

The token of a page may lead anywhere, also to a page that was passed before. From there the
route goes on as it did the first time, so it never comes to a stop. In a finite repository
this is the only way in which it does not: a route that never leads back passes each page at
most once and stops where no page is read.
-/

namespace MetadataHarvest

open Markup Protocol

namespace Repository

/-- The first `n` addresses from a pending one on, or all when there are fewer. -/
def route (r : Repository) (host : String) : Nat → Option String → List String
  | 0, _ => []
  | _ + 1, none => []
  | n + 1, some url => url :: r.route host n (r.following host [] url)

/-- The tokens from a pending address on lead back to a page that was passed. -/
def LeadsBack (r : Repository) (host : String) (pending : Option String) : Prop :=
  ∃ n, ¬(r.route host n pending).Nodup

/-- The pages from a pending address on never come to a stop. -/
def Endless (r : Repository) (host : String) (pending : Option String) : Prop :=
  ∀ n, (r.route host n pending).length = n

/-- No page from a pending address on holds a record. -/
def Barren (r : Repository) (host : String) (pending : Option String) : Prop :=
  ∀ n, (r.route host n pending).flatMap (r.recordsAt []) = []

variable {r : Repository} {host : String} {pending : Option String} {urls : List String}

@[simp] theorem route_none (r : Repository) (host : String) (n : Nat) :
    r.route host n none = [] := by
  cases n with
  | zero => rfl
  | succ n => rfl

@[simp] theorem route_succ_some (r : Repository) (host : String) (n : Nat) (url : String) :
    r.route host (n + 1) (some url) = url :: r.route host n (r.following host [] url) := rfl

/-- A route along a trail is the beginning of the trail. -/
theorem Trail.route_eq_take (trail : r.Trail host pending urls) (n : Nat) :
    r.route host n pending = urls.take n := by
  induction trail generalizing n with
  | stop => rw [route_none, List.take_nil]
  | turn tail ih =>
      cases n with
      | zero => rfl
      | succ n => rw [route_succ_some, ih, List.take_succ_cons]

/-- A trail never leads back. -/
theorem Trail.not_leadsBack (trail : r.Trail host pending urls) : ¬r.LeadsBack host pending := by
  rintro ⟨n, h⟩
  apply h
  rw [trail.route_eq_take]
  exact trail.nodup.sublist (List.take_sublist n urls)

theorem Trail.not_endless (trail : r.Trail host pending urls) : ¬r.Endless host pending := by
  intro h
  have hlength := h (urls.length + 1)
  rw [trail.route_eq_take, List.length_take] at hlength
  omega

/-- A route that is shorter than it might be has come to a stop. -/
theorem trail_of_length_route_lt {n : Nat} :
    ∀ {pending : Option String}, (r.route host n pending).length < n →
      r.Trail host pending (r.route host n pending) := by
  induction n with
  | zero =>
      intro pending h
      cases h
  | succ n ih =>
      intro pending h
      cases pending with
      | none => exact .stop
      | some url =>
          apply Trail.turn
          apply ih
          rw [route_succ_some, List.length_cons] at h
          exact Nat.lt_of_succ_lt_succ h

theorem length_route_le (r : Repository) (host : String) (n : Nat) :
    ∀ pending, (r.route host n pending).length ≤ n := by
  induction n with
  | zero =>
      intro pending
      exact Nat.le_refl 0
  | succ n ih =>
      intro pending
      cases pending with
      | none => exact Nat.zero_le _
      | some url => exact Nat.succ_le_succ (ih _)

/-- The pages come to a stop or they do not. -/
theorem trail_or_endless (r : Repository) (host : String) (pending : Option String) :
    (∃ urls, r.Trail host pending urls) ∨ r.Endless host pending := by
  by_cases h : r.Endless host pending
  · exact .inr h
  · obtain ⟨n, hn⟩ := not_forall.mp h
    have hlt := Nat.lt_of_le_of_ne (r.length_route_le host n pending) hn
    exact .inl ⟨_, trail_of_length_route_lt hlt⟩

/-- Where the tokens lead back, the pages never come to a stop. -/
theorem LeadsBack.endless (h : r.LeadsBack host pending) : r.Endless host pending := by
  rcases r.trail_or_endless host pending with ⟨urls, trail⟩ | hendless
  · exact absurd h trail.not_leadsBack
  · exact hendless

/-- Where the pages never come to a stop, the next one is read and they go on after it. -/
theorem Endless.next (h : r.Endless host pending) :
    ∃ url page, pending = some url ∧ r.page [] url = .ok (some page) ∧
      r.Endless host (r.following host [] url) := by
  cases pending with
  | none =>
      have hlength := h 1
      rw [route_none] at hlength
      cases hlength
  | some url =>
      have hafter : r.Endless host (r.following host [] url) := by
        intro n
        exact Nat.succ.inj (h (n + 1))
      cases hpage : r.page? [] url with
      | none =>
          have hlength := hafter 1
          rw [following_of_page?_eq_none hpage, route_none] at hlength
          cases hlength
      | some page => exact ⟨url, page, rfl, page_of_page? hpage, hafter⟩

/-- A page that leads on is one of those that the repository has. -/
theorem mem_keys_of_following {answers : List (String × String)} {reason url next : String}
    (h : (ofAnswers answers reason).following host [] url = some next) :
    url ∈ answers.map (·.1) := by
  cases hlookup : answers.lookup url with
  | none =>
      have hreply : (ofAnswers answers reason).reply [] url = .error (.fetch url reason) := by
        simp only [reply, ofAnswers, hlookup, mapError_error]
      rw [following_of_page?_eq_none (page?_of_error (page_eq_error_of_reply hreply))] at h
      cases h
  | some body => exact Registry.mem_keys_of_lookup hlookup

/-- Every address of a route leads on, the last one apart. -/
theorem following_of_mem_dropLast_route {n : Nat} :
    ∀ {pending : Option String} {url : String}, url ∈ (r.route host n pending).dropLast →
      ∃ next, r.following host [] url = some next := by
  induction n with
  | zero =>
      intro pending url hmem
      cases hmem
  | succ n ih =>
      intro pending url hmem
      cases pending with
      | none => cases hmem
      | some first =>
          rw [route_succ_some] at hmem
          cases hfollowing : r.following host [] first with
          | none =>
              rw [hfollowing, route_none] at hmem
              cases hmem
          | some next =>
              rw [hfollowing] at hmem
              cases hrest : r.route host n (some next) with
              | nil =>
                  rw [hrest] at hmem
                  cases hmem
              | cons second rest =>
                  rw [hrest, List.dropLast_cons_cons] at hmem
                  rcases List.mem_cons.mp hmem with rfl | hmem
                  · exact ⟨next, hfollowing⟩
                  · rw [← hrest] at hmem
                    exact ih hmem

/-- A route that never leads back passes at most one address beyond the pages there are. -/
theorem length_route_le_of_nodup {answers : List (String × String)} {reason : String} {n : Nat}
    (h : ((ofAnswers answers reason).route host n pending).Nodup) :
    ((ofAnswers answers reason).route host n pending).length ≤ answers.length + 1 := by
  have hsubset : ((ofAnswers answers reason).route host n pending).dropLast ⊆
      answers.map (·.1) := by
    intro url hmem
    obtain ⟨next, hnext⟩ := following_of_mem_dropLast_route hmem
    exact mem_keys_of_following hnext
  have hnodup := h.sublist (List.dropLast_sublist _)
  have hle := (List.subperm_of_subset hnodup hsubset).length_le
  rw [List.length_dropLast, List.length_map] at hle
  omega

/-- In a finite repository the pages come to a stop, after no more addresses than it has and
one, unless the tokens lead back. -/
theorem trail_or_leadsBack (answers : List (String × String)) (reason host : String)
    (pending : Option String) :
    (∃ urls, (ofAnswers answers reason).Trail host pending urls ∧
        urls.length ≤ answers.length + 1) ∨
      (ofAnswers answers reason).LeadsBack host pending := by
  by_cases h : ((ofAnswers answers reason).route host (answers.length + 2) pending).Nodup
  · have hle := length_route_le_of_nodup h
    exact .inl ⟨_, trail_of_length_route_lt (Nat.lt_succ_of_le hle), hle⟩
  · exact .inr ⟨_, h⟩

theorem endless_iff_leadsBack {answers : List (String × String)} {reason : String} :
    (ofAnswers answers reason).Endless host pending ↔
      (ofAnswers answers reason).LeadsBack host pending := by
  constructor
  · intro h
    rcases trail_or_leadsBack answers reason host pending with ⟨urls, trail, -⟩ | hback
    · exact absurd h trail.not_endless
    · exact hback
  · intro h
    exact h.endless

/-- A repository with one format, whose second page leads back to itself. No page holds a
record. -/
def circle : Repository :=
  ofAnswers
    [("a:?verb=ListMetadataFormats",
        "<o><ListMetadataFormats><metadataFormat><metadataPrefix>p</metadataPrefix>"
          ++ "<metadataNamespace>s</metadataNamespace></metadataFormat></ListMetadataFormats></o>"),
      ("a:?verb=ListRecords&metadataPrefix=p",
        "<o><ListRecords><resumptionToken>x</resumptionToken></ListRecords></o>"),
      ("a:?verb=ListRecords&resumptionToken=x",
        "<o><ListRecords><resumptionToken>x</resumptionToken></ListRecords></o>")]
    "down"

/-- Where a page leads to itself, the route stays there. -/
theorem route_of_following_self {url : String} (h : r.following host [] url = some url)
    (n : Nat) : r.route host n (some url) = List.replicate n url := by
  induction n with
  | zero => rfl
  | succ n ih => rw [route_succ_some, h, ih, List.replicate_succ]

theorem route_circle (n : Nat) :
    circle.route "a:" (n + 1) (some "a:?verb=ListRecords&metadataPrefix=p") =
      "a:?verb=ListRecords&metadataPrefix=p" ::
        List.replicate n "a:?verb=ListRecords&resumptionToken=x" := by
  have hfirst : circle.following "a:" [] "a:?verb=ListRecords&metadataPrefix=p" =
      some "a:?verb=ListRecords&resumptionToken=x" := by decide +kernel
  have hsecond : circle.following "a:" [] "a:?verb=ListRecords&resumptionToken=x" =
      some "a:?verb=ListRecords&resumptionToken=x" := by decide +kernel
  rw [route_succ_some, hfirst, route_of_following_self hsecond]

theorem leadsBack_circle :
    circle.LeadsBack "a:" (some "a:?verb=ListRecords&metadataPrefix=p") := by
  refine ⟨3, ?_⟩
  rw [route_circle]
  decide

theorem barren_circle :
    circle.Barren "a:" (some "a:?verb=ListRecords&metadataPrefix=p") := by
  have hfirst : circle.recordsAt [] "a:?verb=ListRecords&metadataPrefix=p" = [] := by
    decide +kernel
  have hsecond : circle.recordsAt [] "a:?verb=ListRecords&resumptionToken=x" = [] := by
    decide +kernel
  intro n
  cases n with
  | zero => rfl
  | succ n =>
      rw [route_circle, List.flatMap_cons, hfirst, List.nil_append, List.flatMap_eq_nil_iff]
      intro url hmem
      rw [List.eq_of_mem_replicate hmem]
      exact hsecond

end Repository

end MetadataHarvest
