import FirmwareTrace.Config.Source

/-! # Configurations

What a decoding run needs: the format of its sources, the sources in load order,
and whether the input is followed.
-/
namespace FirmwareTrace

structure Config where
  format : SourceFormat := .csv
  sources : List Source := []
  follow : Bool := false
  deriving DecidableEq, Repr

namespace Config

/-- The largest library id that a record header can carry. -/
def maxLibraryId : LibraryId := 15

/-- The first fault of a list of sources; before it, the sources that no record
can select. -/
structure Review where
  unmatchable : List Source
  fault : Option ConfigFault

def reviewSources : List Source → Review
  | [] => ⟨[], none⟩
  | source :: rest =>
    if source.path = "" then ⟨[], some .emptyPath⟩
    else
      let review := reviewSources rest
      if maxLibraryId < source.library then
        { review with unmatchable := source :: review.unmatchable }
      else review

def review (config : Config) : Review :=
  if config.sources = [] then ⟨[], some .noProviders⟩ else reviewSources config.sources

/-- Whether the configuration describes a run at all. -/
def validate (config : Config) : Except ConfigFault Unit :=
  match config.review.fault with
  | some fault => .error fault
  | none => .ok ()

theorem reviewSources_fault (sources : List Source) :
    (reviewSources sources).fault =
      if ∃ source ∈ sources, source.path = "" then some .emptyPath else none := by
  induction sources with
  | nil => simp [reviewSources]
  | cons source rest ih =>
    by_cases h : source.path = ""
    · simp [reviewSources, h]
    · by_cases hid : maxLibraryId < source.library <;> simp [reviewSources, h, hid, ih]

end Config
end FirmwareTrace
