/-!
# A sample configuration file

It spells out the standard configuration and shows the other sections as comments.
-/

namespace Clearinghouse

namespace Config

def sampleLines : List String := [
  "# Antenna Configuration File",
  "#",
  "# Place it at .antenna.yaml in your project root or at",
  "# ~/.config/antenna/antenna.yaml for a global config.",
  "",
  "merge:",
  "  # overwrite, keep-existing or strict",
  "  policy: overwrite",
  "  # Reject unknown coordinate types instead of treating them as generic",
  "  strict_types: false",
  "",
  "csv:",
  "  delimiter: ','",
  "  # base_dir: ./artifacts",
  "",
  "policy:",
  "  # minimum_clearing_state: PROJECT_APPROVED",
  "  forbidden_licenses: []",
  "  require_source_url: false",
  "",
  "# overrides:",
  "#   - selector:",
  "#       coordinate: 'maven:org.example/*'",
  "#     set:",
  "#       overridden_license: 'EPL-2.0'",
  "#",
  "# additions:",
  "#   - coordinates: ['pkg:maven/org.example/extra@1.0']",
  "#     declared_license: 'MIT'",
  "#",
  "# removals:",
  "#   - filename: 'internal-tool.jar'",
  "#",
  "# ignore_for_download:",
  "#   - coordinate: 'npm:*'"]

def sample : String := String.join (sampleLines.map (· ++ "\n"))

end Config

end Clearinghouse
