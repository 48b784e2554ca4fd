/-!
# Settings files to start from

The two texts that are written where a settings file is asked for: one with the settings alone, and
one with a word on each of them.
-/

namespace NetWarden.CommandLine.StarterSettings

/-- Lines as one text, each with its end. -/
def joinedLines (lines : List String) : String := String.join (lines.map (· ++ "\n"))

/-- The settings alone. -/
def plain : String :=
  joinedLines [
    "# vpcc configuration",
    "dry_run: false",
    "output: json",
    "log_level: info"]

/-- The settings with a word on each. -/
def annotated : String :=
  joinedLines [
    "# vpcc configuration",
    "#",
    "# Discovery order: --config, VPCC_CONFIG_PATH, ./vpcc-config.yaml,",
    "# ~/.vpcc/config.yaml, /etc/vpcc/config.yaml.",
    "",
    "# Evaluate filters but skip every action.",
    "# Overridden by VPCC_DRY_RUN=true|false.",
    "dry_run: false",
    "",
    "# Report format printed by \x60vpcc policy run\x60: json or yaml.",
    "# Overridden by VPCC_OUTPUT.",
    "output: json",
    "",
    "# Default inventory snapshot for \x60vpcc policy run\x60 when --inventory is not given.",
    "# The file must exist for the configuration to validate.",
    "# inventory: ./inventory.yaml",
    "",
    "# trace, debug, info, warn or error. RUST_LOG takes precedence.",
    "log_level: info"]

end NetWarden.CommandLine.StarterSettings
