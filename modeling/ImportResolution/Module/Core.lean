import ImportResolution.Text

/-!
Core modules: the modules that a Node runtime brings along. They are found under their names alone
and have no file.
-/
namespace ImportResolution.Module

/-- The core modules with one-part names. -/
def coreNames : List String :=
  ["assert", "async_hooks", "buffer", "child_process", "cluster", "console", "constants", "crypto",
   "dgram", "diagnostics_channel", "dns", "domain", "events", "fs", "http", "http2", "https",
   "inspector", "module", "net", "os", "path", "perf_hooks", "process", "punycode", "querystring",
   "readline", "repl", "stream", "string_decoder", "sys", "timers", "tls", "trace_events", "tty",
   "url", "util", "v8", "vm", "wasi", "worker_threads", "zlib"]

/-- The core modules that are parts of others. -/
def corePartNames : List String :=
  ["assert/strict", "dns/promises", "fs/promises", "path/posix", "path/win32",
   "readline/promises", "stream/consumers", "stream/promises", "stream/web", "timers/promises",
   "util/types"]

/-- What a specifier may start with to say that it means a core module. -/
def coreScheme : String := "node:"

/-- All core modules without the scheme. -/
def plainCoreSpecifiers : List Text := (coreNames ++ corePartNames).map String.toList

/-- All specifiers of core modules. -/
def coreSpecifiers : List Text :=
  plainCoreSpecifiers ++ plainCoreSpecifiers.map (coreScheme.toList ++ ·)

/-- Whether a specifier means a core module. -/
def isCore (specifier : Text) : Bool := coreSpecifiers.contains specifier

end ImportResolution.Module
