import MetadataHarvest.Repository.Description

/-!
# What a session requests

Each question to a repository is one request, and the answer is that of the moment at
which it is made. The formats at an address are asked for by exactly one request, except at
a blank address, where none is made and none are known.
-/

namespace MetadataHarvest

@[simp] theorem mapError_error {ε ε' α : Type} (f : ε → ε') (e : ε) :
    (Except.error e : Except ε α).mapError f = .error (f e) := rfl

@[simp] theorem mapError_ok {ε ε' α : Type} (f : ε → ε') (a : α) :
    (Except.ok a : Except ε α).mapError f = .ok a := rfl

/-- What follows in a session starts from the requests made before. -/
theorem Session.run_bind {α β : Type} (m : Session α) (f : α → Session β)
    (before : List String) :
    (m >>= f).run before = (f (m.run before).1).run (m.run before).2 := rfl

namespace Repository

open Protocol

/-- What a repository says at `url` after other requests, or why it says nothing. -/
def reply (r : Repository) (before : List String) (url : String) :
    Except HarvestError String :=
  (r.answer before url).mapError (.fetch url)

/-- The requests by which the formats at an address are asked for. -/
def formatRequests (address : String) : List String :=
  (requestUrl address .listMetadataFormats).toOption.toList

@[simp] theorem run_fetch (r : Repository) (url : String) (before : List String) :
    (r.fetch url).run before = (r.reply before url, before ++ [url]) := rfl

theorem run_ask (r : Repository) (address : String) (request : Request)
    (before : List String) :
    (r.ask address request).run before =
      match requestUrl address request with
      | .error cause => (.error (.configuration cause), before)
      | .ok url => (r.reply before url, before ++ [url]) := by
  unfold ask
  cases requestUrl address request with
  | error cause => rfl
  | ok url => rfl

theorem run_advertised (r : Repository) (address : String) (before : List String) :
    (r.advertised address).run before =
      (((r.ask address .listMetadataFormats).run before).1.bind advertisedFormats,
        ((r.ask address .listMetadataFormats).run before).2) := by
  simp only [advertised, StateT.run_bind, StateT.run_pure]
  rfl

/-- A repository that does not say which formats it has is taken to have none. -/
theorem run_formats (r : Repository) (address : String) (before : List String) :
    (r.formats address).run before =
      (((r.advertised address).run before).1.toOption.getD .empty,
        ((r.advertised address).run before).2) := by
  simp only [formats, StateT.run_bind, StateT.run_pure]
  rfl

/-- Asking for formats is one request, or none at a blank address. -/
theorem requests_formats (r : Repository) (address : String) (before : List String) :
    ((r.formats address).run before).2 = before ++ formatRequests address := by
  rw [run_formats, run_advertised, run_ask, formatRequests]
  cases requestUrl address .listMetadataFormats with
  | error cause => simp [Except.toOption]
  | ok url => simp [Except.toOption]

theorem requestUrl_of_blank {address : String} (h : Text.nonBlank? address = none)
    (request : Request) : requestUrl address request = .error .missingHostUrl := by
  simp only [requestUrl, host, h]
  rfl

/-- Nothing is requested at a blank address. -/
theorem formatRequests_of_blank {address : String} (h : Text.nonBlank? address = none) :
    formatRequests address = [] := by
  rw [formatRequests, requestUrl_of_blank h]
  rfl

/-- No formats are known at a blank address, whatever the repository says. -/
theorem formats_of_blank {address : String} (h : Text.nonBlank? address = none)
    (r : Repository) (before : List String) :
    ((r.formats address).run before).1 = .empty := by
  rw [run_formats, run_advertised, run_ask, requestUrl_of_blank h]
  rfl

end Repository

namespace Protocol

/-- A list of records begins at an address and a prefix that are not blank. -/
theorem listRecordsUrl_of_nonBlank? {address metadataPrefix host name : String}
    (hhost : Text.nonBlank? address = some host)
    (hname : Text.nonBlank? metadataPrefix = some name) (since upTo : Option String) :
    listRecordsUrl address metadataPrefix since upTo =
      .ok ((Request.listRecords name since upTo).url host) := by
  simp only [listRecordsUrl, Protocol.host, hhost, hname]
  rfl

end Protocol

end MetadataHarvest
