import TableExplorer.Dict

/-!
# The lookup cache

The cache keeps choice lists by `table.column` and labels by lookup source. With a time to live,
what was stored longer ago than that has expired: reading an expired entry removes it and finds
nothing. A choice list is renewed by storing it again. Labels of one source are merged into what is
known, and the time of the first merge counts until they expire or the cache is cleared.

Times are in seconds on a clock of the caller's choice.
-/

namespace TableExplorer

/-- An identifier with its label, as a choice list offers it. -/
structure LookupOption where
  id : String
  label : String
  deriving DecidableEq, Repr

/-- Labels by identifier. -/
abbrev Labels := Dict String

/-- Choice lists and labels, with the times at which they were stored. -/
structure LookupCache where
  timeToLive : Option Rat := none
  options : Dict (Rat × List LookupOption) := []
  labels : Dict Labels := []
  loadedAt : Dict Rat := []
  deriving DecidableEq, Repr

namespace LookupCache

/-- Whether what was stored at `storedAt` has expired. -/
def isExpired (c : LookupCache) (now storedAt : Rat) : Bool :=
  match c.timeToLive with
  | none => false
  | some ttl => decide (ttl < now - storedAt)

/-! ## Choice lists -/

def getOptions (c : LookupCache) (now : Rat) (key : String) :
    Option (List LookupOption) × LookupCache :=
  match Dict.get? c.options key with
  | none => (none, c)
  | some (storedAt, options) =>
    if c.isExpired now storedAt then (none, { c with options := Dict.erase c.options key })
    else (some options, c)

def setOptions (c : LookupCache) (now : Rat) (key : String) (options : List LookupOption) :
    LookupCache :=
  { c with options := Dict.insert c.options key (now, options) }

/-! ## Labels -/

/-- Remove the labels of a source if they have expired. -/
def evictLabels (c : LookupCache) (now : Rat) (key : String) : LookupCache :=
  match Dict.get? c.loadedAt key with
  | none => c
  | some storedAt =>
    if c.isExpired now storedAt then
      { c with labels := Dict.erase c.labels key, loadedAt := Dict.erase c.loadedAt key }
    else c

/-- The labels held for a source, expired or not. -/
def heldLabels (c : LookupCache) (key : String) : Labels := (Dict.get? c.labels key).getD []

def readLabels (c : LookupCache) (now : Rat) (key : String) : Labels × LookupCache :=
  let c := c.evictLabels now key
  (c.heldLabels key, c)

/-- The identifiers without a known label, in the order given. -/
def missingIds (c : LookupCache) (now : Rat) (key : String) (ids : List String) :
    List String × LookupCache :=
  let (known, c) := c.readLabels now key
  (ids.filter fun i => !Dict.contains known i, c)

/-- Add labels to those of a source. -/
def mergeLabels (c : LookupCache) (now : Rat) (key : String) (labels : Labels) : LookupCache :=
  { c with
    labels := Dict.insert c.labels key (Dict.merge (c.heldLabels key) labels)
    loadedAt := if Dict.contains c.loadedAt key then c.loadedAt
      else Dict.insert c.loadedAt key now }

/-! ## The whole cache -/

/-- Forget everything but the time to live. -/
def clear (c : LookupCache) : LookupCache := { timeToLive := c.timeToLive }

/-- How much a cache holds. -/
structure Stats where
  optionLists : Nat
  labelSources : Nat
  labels : Nat
  deriving DecidableEq, Repr

/-- Count the choice lists, the sources with labels, and all labels. -/
def stats (c : LookupCache) : Stats :=
  { optionLists := c.options.length
    labelSources := c.labels.length
    labels := c.labels.foldl (fun n p => n + p.2.length) 0 }

end LookupCache

end TableExplorer
