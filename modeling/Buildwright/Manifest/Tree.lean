import Buildwright.Manifest.Basic
import Buildwright.Data

/-!
# Writing a manifest

A manifest as data, in the form in which it can be read. Optional settings stand there only when
they are set, lists only when they have items; but a test or a program always lists its sources,
and the sections `build` and `toolchain` are always there.
-/

namespace Buildwright

/-- The entries of a table. -/
abbrev DataEntries := List (String × Data)

namespace DataEntries

/-- An entry with a text that is set. -/
def optional (key : String) (value? : Option String) : DataEntries :=
  (value?.map fun value => (key, Data.text value)).toList

/-- An entry with a list that has items. -/
def nonempty (key : String) (values : List String) : DataEntries :=
  if values = [] then [] else [(key, Data.texts values)]

end DataEntries

open DataEntries

/-- The section of a package. -/
def Package.toData (p : Package) : Data :=
  .table ([("name", .text p.name), ("version", .text p.version)] ++
    optional "description" p.description?)

/-- The section of the build settings. -/
def BuildSettings.toData (b : BuildSettings) : Data :=
  .table (optional "output" (b.output?.map (·.text)) ++
    (b.jobs?.map fun n => ("jobs", Data.integer n)).toList ++
    optional "mode" b.mode? ++ optional "harness" b.harness? ++
    nonempty "include_dirs" b.includeDirs)

/-- The section of the tool settings. -/
def ToolSettings.toData (t : ToolSettings) : Data :=
  .table (optional "compiler" t.compiler? ++ optional "archiver" t.archiver? ++
    nonempty "link_flags" t.linkFlags ++ optional "lint" t.linter? ++
    nonempty "lint_filters" t.lintFilters)

/-- The entries of a declaration after its kind, where `sources` and `exports` stand for the
sources and for the directories that a library exports. -/
def Contents.entries (c : Contents) (sources exports : DataEntries) : DataEntries :=
  ("name", .text c.name) :: sources ++ nonempty "headers" c.headers ++
    nonempty "local_include_dirs" c.localIncludeDirs ++ exports ++
    nonempty "link_flags" c.linkFlags ++ nonempty "deps" c.deps ++
    if c.lintExempt then [("lint_exempt", .boolean true)] else []

/-- The entries of a declaration after its kind. -/
def Declaration.entries : Declaration → DataEntries
  | library c dirs => c.entries (nonempty "sources" c.sources) (nonempty "global_include_dirs" dirs)
  | test c | program c => c.entries [("sources", Data.texts c.sources)] []

/-- A declaration as data. -/
def Declaration.toData (d : Declaration) : Data :=
  .table (("kind", .text d.kind.name) :: d.entries)

/-- A manifest as data. -/
def Manifest.toData (m : Manifest) : Data :=
  .table ((m.package?.map fun p => ("package", p.toData)).toList ++
    [("build", m.build.toData), ("toolchain", m.tools.toData)] ++
    if m.targets = [] then [] else [("target", .list (m.targets.map Declaration.toData))])

end Buildwright
