import InstallWatch.Schema.Record

/-!
How to reach the installation service: port, path, and the two times, which the environment may set. A time
that is not positive is no time, and the type holds none.
-/

namespace InstallWatch.Service
open InstallWatch.Schema

structure Settings where
  port : Int
  basePath : String
  /-- Seconds one request may take. -/
  timeout : Float
  /-- Seconds between two polls. -/
  pollInterval : Nat
  timeout_pos : 0.0 < timeout
  pollInterval_pos : 0 < pollInterval

namespace Settings

def standard : Settings where
  port := 8090
  basePath := "/api/assisted-install/v2"
  timeout := 30.0
  pollInterval := 5
  timeout_pos := by decide +kernel
  pollInterval_pos := by decide

def title : String := "RestClientSettings"

/-- The settings, if both times are positive. -/
def make (port : Int) (basePath : String) (timeout : Float) (interval : Int) : Checked Settings :=
  if ht : 0.0 < timeout then
    if hi : 0 < interval.toNat then .accepted ⟨port, basePath, timeout, interval.toNat, ht, hi⟩
    else .fault (.below 1)
  else .fault (.notAbove 0)

def check (d : Data) : Checked Settings :=
  let read := record title (fun es =>
    (fun (p : Int) (b : String) (t : Float) (i : Int) => (p, b, t, i))
      <$> field es ["port"] standard.port whole
      <*> field es ["base_path"] standard.basePath text
      <*> field es ["timeout_seconds"] standard.timeout (above 0)
      <*> field es ["poll_interval_seconds"] (standard.pollInterval : Int) (atLeast 1)) d
  read.andThen fun (p, b, t, i) => make p b t i

def write (s : Settings) : Data :=
  written [("port", .int s.port), ("base_path", .text s.basePath),
    ("timeout_seconds", .float s.timeout), ("poll_interval_seconds", .int s.pollInterval)] []

end InstallWatch.Service.Settings
