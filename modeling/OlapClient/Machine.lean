import OlapClient.Files.Tree

namespace OlapClient

/-!
# The machine under a client

* `Machine` — the files that a client sees, the time in milliseconds, and a source of random names.
* `Machine.draw` — the next random name.
* `Machine.read`, `Machine.write`, `Machine.makeDirectories` — files by the texts of their paths.
-/

/-- What a client runs on. `nonce` gives the random names in the order in which they are drawn, and
`drawn` counts how many have been. -/
structure Machine where
  files : Files
  now : Nat
  nonce : Nat → String
  drawn : Nat

namespace Machine

/-- Draw a random name. -/
def draw (m : Machine) : String × Machine :=
  (m.nonce m.drawn, { m with drawn := m.drawn + 1 })

/-- The same machine with other files. -/
def withFiles (m : Machine) (files : Files) : Machine :=
  { m with files }

/-- The same machine some milliseconds later. -/
def sleep (m : Machine) (ms : Nat) : Machine :=
  { m with now := m.now + ms }

/-- Read the file that a text names. -/
def read (m : Machine) (text : String) : Except FileError Bytes :=
  m.files.read (.ofString text)

/-- Write the file that a text names. -/
def write (m : Machine) (text : String) (content : Bytes) : Except FileError Machine :=
  (m.files.write (.ofString text) content).map m.withFiles

/-- Whether a text names a file. -/
def isFile (m : Machine) (text : String) : Bool :=
  m.files.isFile (.ofString text)

/-- Create the directory that a text names, and those above it. -/
def makeDirectories (m : Machine) (text : String) : Except FileError Unit × Machine :=
  let (result, files) := m.files.makeDirectories (.ofString text)
  (result, m.withFiles files)

end Machine

end OlapClient
