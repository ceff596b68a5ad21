import TypeMetadata.Extraction.Insertion
import TypeMetadata.Extraction.Report

/-!
The pass of a generation run over its items, one after another.
-/

namespace TypeMetadata

/-- A flag that asks a pass to stop. It is looked at between items only. Others may set it while a
pass is at work, and nobody takes it back, so the looks that find it unset come before those that
find it set. -/
structure CancelToken where
  /-- How many more looks find the flag unset, if it is set at some time. -/
  looksLeft : Option Nat
deriving DecidableEq

namespace CancelToken

/-- The flag that nobody sets. -/
def fresh : CancelToken := ⟨none⟩

def cancel (_token : CancelToken) : CancelToken := ⟨some 0⟩

/-- What a look finds now. -/
def isCancelled (token : CancelToken) : Bool :=
  token.looksLeft == some 0

/-- The flag as the next look will find it. -/
def afterLook (token : CancelToken) : CancelToken :=
  ⟨token.looksLeft.map Nat.pred⟩

end CancelToken

structure Pass where
  program : Program
  runtime : RuntimeTypes
  catalog : Catalog
  token : CancelToken
  /-- The number of workers that the settings ask for. -/
  parallelism : UInt64

/-- The part of a run that is done: the catalog so far, the items that are not in it, and the number
of items that were looked at. -/
structure Progress where
  catalog : Catalog
  failures : Array Failure
  processed : Nat

namespace Progress

/-- Take in what became of the item at a position: insert it, or note why it is not in the
catalog. -/
def commit (progress : Progress) (index : Nat) (extracted : Except DescriptorError Outcome) :
    Progress :=
  let processed := progress.processed + 1
  match extracted with
  | .error error =>
    { progress with failures := progress.failures.push ⟨index, .descriptor error⟩, processed }
  | .ok outcome =>
    match progress.catalog.perform outcome.insert with
    | (.ok (), catalog) => { progress with catalog, processed }
    | (.error error, catalog) => {
      catalog
      failures := progress.failures.push ⟨index, .catalog error⟩
      processed }

def report (progress : Progress) (items : List Item) : Report :=
  ⟨progress.catalog, progress.failures, progress.processed, items.length⟩

end Progress

namespace Pass

/-- A pass over a program with settings that must be acceptable and name types of the program. Its
catalog holds the configured application parts. -/
def start (program : Program) (config : Config) : Except ExtractionError Pass := do
  if let .error problem := config.validate then
    throw (.invalidConfig problem)
  match RuntimeTypes.resolve program config with
  | .error error => throw (.unresolvedType error)
  | .ok runtime =>
    return {
      program
      runtime
      catalog := Catalog.ofParts config.applicationParts
      token := .fresh
      parallelism := config.parallelism }

def withToken (pass : Pass) (token : CancelToken) : Pass :=
  { pass with token }

def begin (pass : Pass) : Progress :=
  ⟨pass.catalog, #[], 0⟩

def extract (pass : Pass) (item : Item) : Query (Except DescriptorError Outcome) :=
  item.extract pass.program pass.runtime

/-- Go on with the items, each with its position, until there are no more or a look before one of
them finds that the run is to stop. -/
def advance (pass : Pass) (token : CancelToken) (progress : Progress) :
    List (Item × Nat) → Query Progress
  | [] => return progress
  | (item, index) :: items => do
    if token.isCancelled then return progress
    let extracted ← pass.extract item
    pass.advance token.afterLook (progress.commit index extracted) items

def run (pass : Pass) (items : List Item) : Query Report := do
  let progress ← pass.advance pass.token pass.begin items.zipIdx
  return progress.report items

end Pass

end TypeMetadata
