import CloudScaffold.Settings
/-!
# Launching the server

What the server is started with. The level of its log is named in small letters.

It is what TerraForge's `serve` starts.
-/
namespace CloudScaffold.Server

/-- Where the server listens, and what it logs. -/
structure Launch where
  host : String
  port : Int
  logLevel : String
  deriving DecidableEq, Repr

/-- The launch that settings ask for. -/
def launch (s : ServerSettings) : Launch where
  host := s.host
  port := s.port
  logLevel := Text.lower s.logLevel

end CloudScaffold.Server
