import Linewatch.Settings

namespace Linewatch.Settings

def starterLines : List String := [
  "# sigscan configuration",
  "",
  "[policy]",
  "# Minimum severity to fail the scan (info, low, medium, high, critical).",
  "fail_on = \"high\"",
  "",
  "# Rules to ignore entirely. A bare name matches both catalogs;",
  "# \"vulnerability/<name>\" or \"sensitive/<name>\" matches one.",
  "# ignore_rules = [\"unsafeRegex\"]",
  "",
  "# Severity overrides for vulnerability rules. Sensitive findings are",
  "# always critical and cannot be overridden.",
  "# [policy.overrides]",
  "# \"commandInjection\" = \"medium\"",
  "",
  "[limits]",
  "# Refuse documents longer than this many lines.",
  "# max_lines = 200000",
  "# Abort a single document's scan after this many milliseconds.",
  "# timeout_ms = 5000",
  "",
  "# Extra signatures, scanned after the built-in ones.",
  "# [[rules]]",
  "# catalog = \"vulnerability\"",
  "# name = \"postMessage\"",
  "# pattern = '\\.postMessage\\s*\\([^,]*,\\s*[\"'']\\*[\"'']'",
  "# severity = \"medium\"",
  "# description = \"postMessage with a wildcard target origin\""]

def starter : String := String.join (starterLines.map (· ++ "\n"))

end Linewatch.Settings
