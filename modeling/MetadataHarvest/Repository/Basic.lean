import MetadataHarvest.Error

/-!
# Repositories

A repository answers requests. Its answers may depend on the requests before, so that it
can be down at one time and up at another, and a session records what was requested.
-/

namespace MetadataHarvest

/-- The answer to a request after other requests, each given by its address: a text, or
the reason why there is none. -/
structure Repository where
  answer : List String → String → Except String String

/-- A computation that makes requests; its state is the list of those made so far. -/
abbrev Session := StateM (List String)

namespace Repository

/-- The repository that has these answers and no others, at any time. -/
def ofAnswers (answers : List (String × String)) (reason : String) : Repository where
  answer _ url := match answers.lookup url with
    | some body => .ok body
    | none => .error reason

/-- Makes a request. It is the documented contract of whatever carries requests out that each
failure of one (of the network, a timeout, or a status that is not success) is a failure to fetch,
and no other kind of failure comes from a request. -/
def fetch (r : Repository) (url : String) : Session (Except HarvestError String) := do
  let requests ← get
  StateT.set (requests ++ [url])
  return (r.answer requests url).mapError (.fetch url)

end Repository

end MetadataHarvest
