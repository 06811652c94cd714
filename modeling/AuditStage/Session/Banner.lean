/-! The sign that a session starts with. -/

namespace AuditStage

/-- The lines of the banner. -/
def bannerLines : List String :=
  ["",
   "   ____            _                  _     ____             _   _            _",
   "  / ___|___  _ __ | |_ _ __ __ _  ___| |_  / ___|  ___ _ __ | |_(_)_ __   ___| |",
   " | |   / _ \\| '_ \\| __| '__/ _` |/ __| __| \\___ \\ / _ \\ '_ \\| __| | '_ \\ / _ \\ |",
   " | |__| (_) | | | | |_| | | (_| | (__| |_   ___) |  __/ | | | |_| | | | |  __/ |",
   "  \\____\\___/|_| |_|\\__|_|  \\__,_|\\___|\\__| |____/ \\___|_| |_|\\__|_|_| |_|\\___|_|",
   "",
   "          Verified Source Reconstruction + Slither Orchestration",
   ""]

/-- The banner. -/
def banner : String :=
  "\n".intercalate bannerLines

end AuditStage
