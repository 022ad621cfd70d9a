/-
What is counted. Each thing that happens is recorded as a sample, a metric with a value for
each of its labels; the count of a sample is how often it was recorded.
-/

namespace Metasearch

/-- A thing that is counted. -/
inductive Metric
  | warnings
  | logins
  | rows
  | searchDuration
  | searches
  deriving DecidableEq, Repr

namespace Metric

/-- All metrics, in the order of their names. -/
def all : List Metric :=
  [.warnings, .logins, .rows, .searchDuration, .searches]

/-- The name of a metric. -/
def name : Metric → String
  | .searches => "trawler_searches_total"
  | .searchDuration => "trawler_search_duration_seconds"
  | .rows => "trawler_rows_total"
  | .warnings => "trawler_extraction_warnings_total"
  | .logins => "trawler_logins_total"

/-- What a metric counts. -/
def help : Metric → String
  | .searches => "Total searches run against indexers"
  | .searchDuration => "Duration of a search including navigation and extraction"
  | .rows => "Result rows processed"
  | .warnings => "Field values that could not be coerced and were skipped"
  | .logins => "Total login attempts"

/-- The labels of a metric. -/
def labels : Metric → List String
  | .searches => ["site", "result"]
  | .searchDuration => ["site"]
  | .rows => ["site", "outcome"]
  | .warnings => ["site", "field"]
  | .logins => ["site", "result"]

end Metric

/-- A metric with the values of its labels. -/
structure Sample where
  metric : Metric
  values : List String
  deriving DecidableEq, Repr

/-- All samples recorded, the latest first. -/
abbrev Metrics := List Sample

namespace Metrics

/-- How often a sample was recorded. -/
def tally (metrics : Metrics) (sample : Sample) : Nat :=
  metrics.count sample

/-- The labels of a sample with their values, in the order of the labels. -/
def labelled (sample : Sample) : List (String × String) :=
  (sample.metric.labels.zip sample.values).mergeSort fun left right => left.1 ≤ right.1

/-- The first of two samples in the order of names and then of labels. -/
def comesFirst (left right : Sample) : Bool :=
  let key (sample : Sample) : List String :=
    sample.metric.name :: (labelled sample).flatMap fun label => [label.1, label.2]
  (List.compareLex compare (key left) (key right)).isLE

/-- Each sample that was recorded, in order, and how often. -/
def summary (metrics : Metrics) : List (Sample × Nat) :=
  (metrics.eraseDups.mergeSort comesFirst).map fun sample => (sample, metrics.tally sample)

end Metrics

/-- A collection of metrics that are to be read out together; none is in it twice. -/
structure Registry where
  metrics : List Metric
  deriving DecidableEq, Repr

namespace Registry

/-- A registry with nothing in it. -/
def empty : Registry := ⟨[]⟩

/-- Adds a metric, unless it is there already. -/
def register? (registry : Registry) (metric : Metric) : Option Registry :=
  if registry.metrics.contains metric then none else some ⟨metric :: registry.metrics⟩

/-- Adds all metrics, one after another, up to the first that is there already. -/
def registerAll? (registry : Registry) : Option Registry :=
  Metric.all.foldlM register? registry

end Registry

end Metasearch
