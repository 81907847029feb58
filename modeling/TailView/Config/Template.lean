/-!
# The annotated configuration

A document with every setting at its standard value, and notes for whoever edits it.
-/

namespace TailView
namespace Config

/-- The lines of the annotated configuration. -/
def templateLines : List String :=
  [
    "# logtail configuration",
    "#",
    "# Configuration hierarchy (highest precedence wins):",
    "#   1. Command-line flags",
    "#   2. Environment variables (LOGTAIL_*)",
    "#   3. Project config (.logtail.toml in current directory)",
    "#   4. User global config (~/.logtail/config.toml)",
    "#   5. Built-in defaults",
    "",
    "[connection]",
    "url = \"ws://localhost:8080/logviewer/tail\"",
    "heartbeat_interval_ms = 10000",
    "reconnect_delay_ms = 3000",
    "max_reconnect_delay_ms = 3000         # Raise above reconnect_delay_ms for exponential backoff",
    "",
    "[tail]",
    "file = \"\"                             # Log file to open on start",
    "amount = 1.0",
    "unit = \"mb\"                           # kb | mb",
    "follow = true",
    "bytes_per_line = 100                  # Used to size the scrollback from the amount",
    "classifier = \"error-only\"             # error-only | multi-level",
    "",
    "[filter]",
    "mode = \"regex\"                        # regex | literal",
    "case_insensitive = false",
    "debounce_ms = 300",
    "",
    "[render]",
    "color = true",
    "show_correlation = true",
    "",
    "[logging]",
    "level = \"warn\"",
    "file = \"~/.logtail/logtail.log\""
  ]

/-- The annotated configuration. -/
def template : String := String.join (templateLines.map (· ++ "\n"))

end Config
end TailView
